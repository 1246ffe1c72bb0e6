import LuaStubs.Proofs.Api.Resolution
import LuaStubs.Proofs.Decimal.Digits
import LuaStubs.Proofs.Entries

/-!
# Responses by their status codes

The key of a response is a number that may have a plus sign and zeros in front,
so several keys can stand for one code: those that are the same without what may
stand in front (`eq_iff_plainKey_eq`). An endpoint finds the first declared
response of a code, which is the one under a given key unless another spelling
of that key is declared before it (`response_first_declared`).
-/

namespace LuaStubs.Api

namespace StatusCode

/-! ## Keys of codes -/

/-- A key without the plus sign in front. -/
def unsigned (key : String) : List Char :=
  match key.toList with
  | '+' :: rest => rest
  | cs => cs

/-- A key without the plus sign and the zeros in front; of zeros alone, one is left. -/
def plainKey (key : String) : String :=
  match (unsigned key).dropWhile (· == '0') with
  | [] => "0"
  | rest => String.ofList rest

theorem natOfDigits?_eq_some_iff {ds : List Char} {n : Nat} : natOfDigits? ds = some n ↔
    ds ≠ [] ∧ ds.all Char.isDigit = true ∧ n = Nat.ofDigitChars 10 ds 0 := by
  rw [Nat.ofDigitChars_eq_foldl]
  cases ds with
  | nil => simp [natOfDigits?]
  | cons d ds =>
    rw [natOfDigits?, Option.ite_none_right_eq_some, Option.some.injEq, eq_comm (b := n)]
    · simp
    · exact nofun

/-- A key of a code is `default`, or digits with or without a plus sign that stand for a number of 16
bits. -/
theorem ofKey?_eq_some_iff {key : String} {code : StatusCode} : ofKey? key = some code ↔
    key = "default" ∧ code = .default ∨
      key ≠ "default" ∧ unsigned key ≠ [] ∧ (unsigned key).all Char.isDigit = true ∧
        Nat.ofDigitChars 10 (unsigned key) 0 < 65536 ∧ code = .code (Nat.ofDigitChars 10 (unsigned key) 0) := by
  have hkey : ofKey? key = if key = "default" then some default
      else (natOfDigits? (unsigned key)).bind fun n => if n < 65536 then some (.code n) else none := rfl
  rw [hkey]
  split
  · next h =>
    constructor
    · rintro ⟨⟩
      exact .inl ⟨h, rfl⟩
    · rintro (⟨-, rfl⟩ | ⟨hne, -⟩)
      · rfl
      · exact absurd h hne
  · next h =>
    simp only [h, false_and, false_or, not_false_eq_true, true_and, ne_eq, Option.bind_eq_some_iff,
      natOfDigits?_eq_some_iff, Option.ite_none_right_eq_some, Option.some.injEq]
    constructor
    · rintro ⟨n, ⟨hne, hdigits, rfl⟩, hlt, rfl⟩
      exact ⟨hne, hdigits, hlt, rfl⟩
    · rintro ⟨hne, hdigits, hlt, rfl⟩
      exact ⟨_, ⟨hne, hdigits, rfl⟩, hlt, rfl⟩

/-- The text of a code is the key that it is read from, without what may stand in front. -/
theorem text_of_ofKey? {key : String} {code : StatusCode} (h : ofKey? key = some code) : code.text = plainKey key := by
  rcases ofKey?_eq_some_iff.1 h with ⟨rfl, rfl⟩ | ⟨-, -, hdigits, -, rfl⟩
  · decide
  · rw [plainKey, text, ← ofDigitChars_dropWhile]
    split
    · next hzeros =>
      rw [hzeros]
      decide
    · next rest hne =>
      have hrest : ((unsigned key).dropWhile (· == '0')).all Char.isDigit = true :=
        List.all_eq_true.2 fun c hc => List.all_eq_true.1 hdigits c ((List.dropWhile_suffix _).subset hc)
      have hhead : ((unsigned key).dropWhile (· == '0')).head? ≠ some '0' := fun hzero => by
        have := List.head?_dropWhile_not (· == '0') (unsigned key)
        simp [hzero] at this
      rw [toDigits_ofDigitChars hrest hne hhead]

theorem text_inj {c c' : StatusCode} : c.text = c'.text ↔ c = c' := by
  refine ⟨fun h => ?_, congrArg text⟩
  have hdefault (n : Nat) : Nat.toDigits 10 n ≠ "default".toList := fun heq => by
    have hdigits := all_isDigit_toDigits n
    rw [heq] at hdigits
    exact absurd hdigits (by decide)
  have hchars : c.text.toList = c'.text.toList := congrArg String.toList h
  cases c with
  | default =>
    cases c' with
    | default => rfl
    | code m => exact absurd (String.toList_ofList.symm.trans hchars.symm) (hdefault m)
  | code n =>
    rw [text, String.toList_ofList] at hchars
    cases c' with
    | default => exact absurd hchars (hdefault n)
    | code m =>
      rw [text, String.toList_ofList] at hchars
      rw [← Nat.ofDigitChars_ten_toDigits (n := n), hchars, Nat.ofDigitChars_ten_toDigits]

/-- Keys stand for one code just if they differ at most in what may stand in front. -/
theorem eq_iff_plainKey_eq {key key' : String} {code code' : StatusCode} (h : ofKey? key = some code)
    (h' : ofKey? key' = some code') : code = code' ↔ plainKey key = plainKey key' := by
  rw [← text_of_ofKey? h, ← text_of_ofKey? h', text_inj]

/-- A key stands for a code and differs from another one at most in what may stand in front. -/
def Respells (key other : String) : Prop := (ofKey? other).isSome = true ∧ plainKey other = plainKey key

/-- The other spellings of a key are the keys of its code. -/
theorem respells_iff {key other : String} {code : StatusCode} (h : ofKey? key = some code) :
    Respells key other ↔ ofKey? other = some code := by
  rw [Respells]
  cases hother : ofKey? other with
  | none => simp
  | some code' => simp [eq_iff_plainKey_eq hother h]

end StatusCode

/-! ## Responses of endpoints -/

namespace Document

variable {d : Document} {settings : Settings}

/-- The response that an endpoint has for a code is the first one under a key of that code. -/
theorem response?_endpointOf (path : String) (method : Method) (o : Operation) (id : Identifier)
    (shared : List ParameterDecl) (code : StatusCode) :
    (d.endpointOf settings path method o id shared).response? code =
      (o.responses.find? fun entry => StatusCode.ofKey? entry.1 = some code).bind fun entry =>
        d.response? entry.1 entry.2 := by
  have hcode (entry : String × ResponseDecl) : (d.response? entry.1 entry.2).any (fun r => r.code = code) =
      decide (StatusCode.ofKey? entry.1 = some code) := by
    rw [response?]
    cases StatusCode.ofKey? entry.1 <;> simp
  rw [Endpoint.response?, endpointOf, List.find?_filterMap]
  simp only [hcode]

/-- So it is the one under a key of that code that has none before it. -/
theorem response?_endpointOf_of_first (path : String) (method : Method) {o : Operation} (id : Identifier)
    (shared : List ParameterDecl) {code : StatusCode} {before after : Entries ResponseDecl} {key : String}
    {r : ResponseDecl} (h : o.responses = before ++ (key, r) :: after) (hcode : StatusCode.ofKey? key = some code)
    (hbefore : ∀ entry ∈ before, StatusCode.ofKey? entry.1 ≠ some code) :
    (d.endpointOf settings path method o id shared).response? code = d.response? key r := by
  have hfirst : o.responses.find? (fun entry => StatusCode.ofKey? entry.1 = some code) = some (key, r) :=
    List.find?_eq_some_iff_append.2
      ⟨decide_eq_true hcode, before, after, h, fun entry hentry => by simpa using hbefore entry hentry⟩
  rw [response?_endpointOf, hfirst, Option.bind_some]

end Document

/-- For the code of a declared key, an endpoint has the response declared under that key, unless another
spelling of the key is declared before it. Then it has the response of the first spelling. Keys stand for
one code just if they are the same without a plus sign and zeros in front. -/
theorem response_first_declared {d : Document} {settings : Settings} {path : String} {method : Method}
    {raw : Json.Value} {e : Endpoint} (h : d.endpoint settings path method raw = .ok e) :
    ∃ o, Operation.decode raw = .ok o ∧
      (∀ before key r after code, o.responses = before ++ (key, r) :: after → StatusCode.ofKey? key = some code →
        (∀ entry ∈ before, ¬ StatusCode.Respells key entry.1) →
        e.response? code = some
          { code
            description := r.description
            hasSchema := r.schema.isSome
            schemaRef := r.schema.bind d.schemaRef?
            category := (r.schema.map d.category).getD .composite }) ∧
      (∀ key ∈ o.responses.keys, ∀ code, StatusCode.ofKey? key = some code →
        ∃ before first r after, o.responses = before ++ (first, r) :: after ∧ StatusCode.Respells key first ∧
          (∀ entry ∈ before, ¬ StatusCode.Respells key entry.1) ∧ e.response? code = d.response? first r) ∧
      ∀ key key' code code', StatusCode.ofKey? key = some code → StatusCode.ofKey? key' = some code' →
        (code = code' ↔ StatusCode.plainKey key = StatusCode.plainKey key') := by
  obtain ⟨o, id, shared, ho, -, rfl⟩ := Document.endpoint_eq_ok h
  refine ⟨o, ho, ?_, ?_, fun _ _ _ _ => StatusCode.eq_iff_plainKey_eq⟩
  · intro before key r after code hsplit hcode hbefore
    simp only [StatusCode.respells_iff hcode] at hbefore
    rw [Document.response?_endpointOf_of_first path method id shared hsplit hcode hbefore, Document.response?, hcode,
      Option.map_some]
  · intro key hkey code hcode
    simp only [StatusCode.respells_iff hcode]
    obtain ⟨r, hr⟩ := Entries.mem_keys_iff.1 hkey
    have hsome : (o.responses.find? fun entry => StatusCode.ofKey? entry.1 = some code).isSome = true :=
      List.find?_isSome.2 ⟨(key, r), hr, decide_eq_true hcode⟩
    obtain ⟨⟨first, r'⟩, hfirst⟩ := Option.isSome_iff_exists.1 hsome
    obtain ⟨hof, before, after, hsplit, hbefore⟩ := List.find?_eq_some_iff_append.1 hfirst
    have hbefore' : ∀ entry ∈ before, StatusCode.ofKey? entry.1 ≠ some code := fun entry hentry => by
      simpa using hbefore entry hentry
    have hcode' : StatusCode.ofKey? first = some code := of_decide_eq_true hof
    exact ⟨before, first, r', after, hsplit, hcode', hbefore',
      Document.response?_endpointOf_of_first path method id shared hsplit hcode' hbefore'⟩

/-- An operation with responses that have a description each. -/
def describedOperation (responses : Entries String) : Json.Value :=
  .object [("operationId", .string "Get"),
    ("responses", .object (responses.map fun r => (r.1, .object [("description", .string r.2)])))]

/-- Responses of several keys: the one of 200 is found, though a key that is no code stands before it and
another spelling of 200 behind it. -/
theorem response_first_declared_ok :
    ∃ e : Endpoint, (default : Document).endpoint {} "/r" .get
        (describedOperation [("2XX", "a"), ("404", "b"), ("200", "c"), ("+0200", "d")]) = .ok e ∧
      StatusCode.ofKey? "200" = some (.code 200) ∧
      (∀ key ∈ ["2XX", "404"], ¬ StatusCode.Respells "200" key) ∧
      (e.response? (.code 200)).map Response.description = some "c" := by
  have hcode : StatusCode.ofKey? "200" = some (.code 200) := by decide
  have hbefore : ∀ key ∈ ["2XX", "404"], ¬ StatusCode.Respells "200" key := by
    simp only [StatusCode.respells_iff hcode]
    decide
  refine ⟨_, rfl, hcode, hbefore, ?_⟩
  obtain ⟨o, ho, hfirst, -⟩ := @response_first_declared default {} "/r" .get
    (describedOperation [("2XX", "a"), ("404", "b"), ("200", "c"), ("+0200", "d")]) _ rfl
  obtain rfl := Except.ok.inj ho
  rw [hfirst [_, _] "200" _ [_] (.code 200) rfl hcode fun entry hentry => hbefore entry.1 (List.mem_map_of_mem hentry)]
  rfl

/-- Under 0200 a response is declared that is not found, since its code is that of 200. -/
theorem response_respelled_lost :
    ∃ (e : Endpoint) (o : Operation) (r : ResponseDecl),
      (default : Document).endpoint {} "/r" .get (describedOperation [("200", "a"), ("0200", "b")]) = .ok e ∧
      Operation.decode (describedOperation [("200", "a"), ("0200", "b")]) = .ok o ∧ o.responses.keys.Nodup ∧
      ("0200", r) ∈ o.responses ∧ StatusCode.ofKey? "0200" = some (.code 200) ∧
      e.response? (.code 200) ≠ (default : Document).response? "0200" r ∧
      e.responses.map Response.code = [.code 200, .code 200] := by
  refine ⟨_, _, _, rfl, rfl, by decide, List.mem_cons_of_mem _ (List.mem_cons_self ..), by decide, by decide, by decide⟩

end LuaStubs.Api
