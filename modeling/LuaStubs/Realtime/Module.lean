import LuaStubs.Realtime.Context
import LuaStubs.Template.Set

/-!
# The realtime module

The module has a function that sends each message and one that sets the handler
of each event. `renderModule` renders these one by one, in order, and then the
module around them; the first template that fails ends it.
-/

namespace LuaStubs.Realtime

variable {τ : Type} [Template.Engine τ]

/-- The function that sends a message. -/
def renderMessage (templates : TemplateSet τ) (m : Proto.Message) : Except Error String :=
  templates.render "realtime/message" (MessageContext.ofMessage m).toJson

/-- The function that sets the handler of an event. -/
def renderEvent (templates : TemplateSet τ) (e : Proto.Event) : Except Error String :=
  templates.render "realtime/event" (EventContext.ofEvent e).toJson

/-- The module with the given messages and events. -/
def renderModule (templates : TemplateSet τ) (messages : List Proto.Message)
    (events : List Proto.Event) : Except Error String := do
  let senders ← messages.mapM (renderMessage templates)
  let hooks ← events.mapM (renderEvent templates)
  templates.render "realtime/socket"
    (ModuleContext.toJson ⟨String.join senders, events.map Proto.Event.hook, String.join hooks⟩)

end LuaStubs.Realtime
