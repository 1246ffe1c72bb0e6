import LuaStubs.Text.Case
import LuaStubs.Text.Quoted
import LuaStubs.Text.Blank
import LuaStubs.Text.Word
import LuaStubs.Text.Search
import LuaStubs.Identifier
import LuaStubs.Category
import LuaStubs.Entity
import LuaStubs.Lua.Name
import LuaStubs.Lua.Comment
import LuaStubs.Lua.Literal
import LuaStubs.Files.Problem
import LuaStubs.Json.Number
import LuaStubs.Json.Token
import LuaStubs.Json.Reader
import LuaStubs.Json.Writer
import LuaStubs.Api.Schema
import LuaStubs.Api.Operation
import LuaStubs.Api.Document
import LuaStubs.Error
import LuaStubs.Report
import LuaStubs.Api.Resolution
import LuaStubs.Proto.Document
import LuaStubs.Template.Reader
import LuaStubs.Template.Set
import LuaStubs.Realtime.Module
import LuaStubs.Rest.Module
import LuaStubs.Summary.Basic
import LuaStubs.Summary.Format
import LuaStubs.Toml.Statement
import LuaStubs.Toml.Text
import LuaStubs.Toml.Reader
import LuaStubs.Manifest.Decode
import LuaStubs.Template.Override
import LuaStubs.Outputs
import LuaStubs.Generator
import LuaStubs.Files.Store
import LuaStubs.Files.Tree
import LuaStubs.Command.Run
import LuaStubs.Main
import LuaStubs.Proofs.Text.Case
import LuaStubs.Proofs.Text.Search
import LuaStubs.Proofs.Identifier
import LuaStubs.Proofs.Lua.Name
import LuaStubs.Proofs.Lua.Argument
import LuaStubs.Proofs.Lua.Comment
import LuaStubs.Proofs.Lua.Literal
import LuaStubs.Proofs.Lua.Pattern
import LuaStubs.Proofs.Decimal.Digits
import LuaStubs.Proofs.Decimal.Shortest
import LuaStubs.Proofs.Json.Equality
import LuaStubs.Proofs.Json.Agreement
import LuaStubs.Proofs.Json.Numeral
import LuaStubs.Proofs.Json.Datum
import LuaStubs.Proofs.Json.Layout
import LuaStubs.Proofs.Summary.Format
import LuaStubs.Proofs.Toml.Decode
import LuaStubs.Proofs.Toml.Equality
import LuaStubs.Proofs.Proto.Comments
import LuaStubs.Proofs.Proto.Lexer
import LuaStubs.Proofs.Proto.Schema
import LuaStubs.Proofs.Proto.Lines
import LuaStubs.Proofs.Proto.Blocks
import LuaStubs.Proofs.Proto.Rows
import LuaStubs.Proofs.Proto.Nesting
import LuaStubs.Proofs.Proto.Maps
import LuaStubs.Proofs.Proto.Fields
import LuaStubs.Proofs.Proto.RoundTrip
import LuaStubs.Proofs.Proto.Lookup
import LuaStubs.Proofs.Proto.Tokens
import LuaStubs.Proofs.Proto.NestedTokens
import LuaStubs.Proofs.Proto.Cuts
import LuaStubs.Proofs.Proto.OwnTokens
import LuaStubs.Proofs.Proto.Declarations
import LuaStubs.Proofs.Proto.Layout
import LuaStubs.Proofs.Proto.Surroundings
import LuaStubs.Proofs.Attempt
import LuaStubs.Proofs.Manifest
import LuaStubs.Proofs.Manifest.Offence
import LuaStubs.Proofs.Report
import LuaStubs.Proofs.Entries
import LuaStubs.Proofs.Files.Store
import LuaStubs.Proofs.Api.Resolution
import LuaStubs.Proofs.Api.StatusCode
import LuaStubs.Proofs.Api.Isolation
import LuaStubs.Proofs.Api.Outline
import LuaStubs.Proofs.Api.Session
import LuaStubs.Proofs.Api.Inheritance
import LuaStubs.Proofs.Api.Shape
import LuaStubs.Proofs.Api.Written
import LuaStubs.Proofs.Api.Definitions
import LuaStubs.Proofs.Api.Order
import LuaStubs.Proofs.Template.Piece
import LuaStubs.Proofs.Template.Sources
import LuaStubs.Proofs.Template.Occurrence
import LuaStubs.Proofs.Template.Rendering
import LuaStubs.Proofs.Template.Text
import LuaStubs.Proofs.Realtime.Pieces
import LuaStubs.Proofs.Realtime.Sender
import LuaStubs.Proofs.Rest.Pieces
import LuaStubs.Proofs.Rest.Arguments
import LuaStubs.Proofs.Rest.Placeholder
import LuaStubs.Proofs.Rest.Transport
import LuaStubs.Proofs.Rest.Responses
import LuaStubs.Proofs.Rest.Bodies
import LuaStubs.Proofs.Rest.Caller
import LuaStubs.Proofs.Generator.Rest
import LuaStubs.Proofs.Generator.Realtime
import LuaStubs.Proofs.Generator.Collisions
import LuaStubs.Proofs.Generator.Names
import LuaStubs.Proofs.Generator.Comments
import LuaStubs.Proofs.Generator.Literals
import LuaStubs.Proofs.Generator.Isolation
import LuaStubs.Proofs.Generator.Assembly
import LuaStubs.Proofs.Generator.Run
import LuaStubs.Proofs.Command.Preparation
import LuaStubs.Proofs.Manifest.Form
import LuaStubs.Proofs.Command.Outcome
