import LuaStubs.Proofs.Lua.Name

/-!
# Names of arguments

The name of an argument ends with its Lua type, and the types end with different
characters, so the name tells its base and its category (`argumentName_inj`). It
is a name in small letters and hides none of the names without a type that
generated functions take or use (`argumentName_hygienic`).
-/

namespace LuaStubs.Lua

/-- The names in the functions for endpoints and definitions that are there whatever the arguments are:
the other arguments, the local variables, the argument of the handler, and what is used from outside. -/
def fixedNames : List String :=
  ["client", "callback", "retry_policy", "cancellation_token",
   "url_path", "query_params", "post_data", "result",
   "assert", "type", "json", "http", "uri_encode", "store_session", "api_session", "M"]

theorem argumentName_toList (name : String) (category : Category) :
    (argumentName name category).toList = argumentBase name ++ separator :: category.luaType.toList :=
  String.toList_ofList

/-- Two categories whose types end with the same character are the same. -/
theorem category_eq_of_getLast? {c d : Category} (h : c.luaType.toList.getLast? = d.luaType.toList.getLast?) :
    c = d := by
  revert h
  cases c <;> cases d <;> decide

theorem getLast?_argumentName (name : String) (category : Category) :
    (argumentName name category).toList.getLast? = category.luaType.toList.getLast? := by
  rw [argumentName_toList]
  cases category <;> simp [Category.luaType]

/-- An argument's name is the name of no other base or category. -/
theorem argumentName_inj {a b : String} {c d : Category} :
    argumentName a c = argumentName b d ↔ argumentBase a = argumentBase b ∧ c = d := by
  refine ⟨fun h => ?_, fun ⟨hbase, hcategory⟩ => by rw [argumentName, hbase, hcategory, argumentName]⟩
  have hlists := congrArg String.toList h
  have hcategory : c = d := by
    refine category_eq_of_getLast? ?_
    rw [← getLast?_argumentName a, ← getLast?_argumentName b, h]
  subst hcategory
  rw [argumentName_toList, argumentName_toList] at hlists
  exact ⟨List.append_cancel_right hlists, rfl⟩

/-- A text that ends with no type behind an underscore is the name of no argument. -/
theorem argumentName_ne {x : String}
    (hx : ∀ category : Category, ¬ (separator :: category.luaType.toList) <:+ x.toList) (name : String)
    (category : Category) : argumentName name category ≠ x := by
  rintro rfl
  refine hx category ?_
  rw [argumentName_toList]
  exact List.suffix_append ..

theorem argumentName_not_mem_fixedNames (name : String) (category : Category) :
    argumentName name category ∉ fixedNames := by
  have hends : ∀ x ∈ fixedNames, ∀ category : Category, ¬ (separator :: category.luaType.toList) <:+ x.toList := by
    intro x hx category
    revert x
    cases category <;> decide
  exact fun hmem => argumentName_ne (hends _ hmem) name category rfl

/-! ## Small letters -/

theorem lower_of_mem_argumentBase {name : String} {c : Char} (hc : c ∈ argumentBase name) : Text.lower c = [c] := by
  rw [argumentBase] at hc
  split at hc
  · simp only [List.mem_cons, List.not_mem_nil, or_false] at hc
    rcases hc with rfl | rfl | rfl <;> decide
  · next hbase =>
    split at hc
    · rcases List.mem_cons.1 hc with rfl | hc
      · exact lower_separator
      · exact lower_of_mem_normalizeFrom (hbase ▸ hc)
    · exact lower_of_mem_normalizeFrom (hbase ▸ hc)

/-- Of the parts of a name, those that are in lower case are not upper case. -/
theorem isUpper_of_isNamePart {c : Char} (hpart : isNamePart c = true) (hlower : Text.lower c = [c]) :
    Text.isUpper c = false := by
  have hascii : c.toNat < 128 := Nat.lt_of_not_le fun h => by simp [not_isNamePart h] at hpart
  revert hlower
  exact Text.of_ascii (p := fun c => Text.lower c = [c] → Text.isUpper c = false) (by decide) hascii

theorem isUpper_of_mem_argumentName {name : String} {category : Category} {c : Char}
    (hc : c ∈ (argumentName name category).toList) : Text.isUpper c = false := by
  have htype : (separator :: category.luaType.toList).all (fun c => !Text.isUpper c) = true := by
    cases category <;> decide
  rw [argumentName_toList, List.mem_append] at hc
  rcases hc with hc | hc
  · exact isUpper_of_isNamePart (List.all_eq_true.1 (argumentBase_isName name).2 c hc) (lower_of_mem_argumentBase hc)
  · simpa using List.all_eq_true.1 htype c hc

/-- Whatever an argument is called in a document, its name is a name in Lua, has no upper-case letters,
ends with its type, and is none of the names that generated functions take or use beside it. -/
theorem argumentName_hygienic (name : String) (category : Category) :
    isName (argumentName name category) = true ∧
    (∀ c ∈ (argumentName name category).toList, Text.isUpper c = false) ∧
    (separator :: category.luaType.toList) <:+ (argumentName name category).toList ∧
    argumentName name category ∉ fixedNames := by
  refine ⟨isName_argumentName name category, fun c hc => isUpper_of_mem_argumentName hc, ?_,
    argumentName_not_mem_fixedNames name category⟩
  rw [argumentName_toList]
  exact List.suffix_append ..

end LuaStubs.Lua
