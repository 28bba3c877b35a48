/-! # Environment placeholders in configuration text

`${NAME}` in configuration text is replaced by the value of the variable `NAME`. A placeholder
whose variable is unset stays as written, and so do `${}` and a `${` without a closing brace;
a value is inserted as it is, without being searched for placeholders itself.
-/

namespace ChatGateway

/-- **Process variables, as name and value in the order they were set.** -/
structure Environment where
  vars : List (String × String)
  deriving Repr

namespace Environment

/-- The value of a variable: that of the first entry `NAME=VALUE` that begins with `name=`. -/
def lookup (env : Environment) (name : String) : Option String :=
  let key := (name ++ "=").toList
  env.vars.findSome? fun (k, v) =>
    let entry := (k ++ "=" ++ v).toList
    if key.isPrefixOf entry then some (String.ofList (entry.drop key.length)) else none

/-- Sets a variable: the value of an entry of that name is replaced where it stands, and a new
name is added last. -/
def set (env : Environment) (name value : String) : Environment :=
  if env.vars.any (·.1 == name) then
    ⟨env.vars.map fun (k, v) => if k == name then (k, value) else (k, v)⟩
  else ⟨env.vars ++ [(name, value)]⟩

/-- Sets variables one after another. -/
def setAll (env : Environment) (vars : List (String × String)) : Environment :=
  vars.foldl (fun e (k, v) => e.set k v) env

/-- The text up to the first `}` and the text after it. -/
def splitAtBrace : List Char → Option (List Char × List Char)
  | [] => none
  | '}' :: rest => some ([], rest)
  | c :: rest => (splitAtBrace rest).map fun (name, after) => (c :: name, after)

/-- The length of `splitAtBrace`'s remainder is below that of its input. -/
theorem splitAtBrace_rest_length {cs name after : List Char}
    (h : splitAtBrace cs = some (name, after)) : after.length < cs.length := by
  induction cs generalizing name after with
  | nil => simp [splitAtBrace] at h
  | cons c rest ih =>
    by_cases hc : c = '}'
    · subst hc; simp only [splitAtBrace, Option.some.injEq, Prod.mk.injEq] at h
      obtain ⟨-, rfl⟩ := h; simp
    · rw [splitAtBrace.eq_3 _ _ hc] at h
      obtain ⟨⟨n, a⟩, hs, he⟩ := Option.map_eq_some_iff.1 h
      simp only [Prod.mk.injEq] at he
      obtain ⟨-, rfl⟩ := he
      have := ih hs; simp only [List.length_cons]; omega

/-- Substitutes placeholders in a character list, the value of a name given by `lookup`. -/
def substituteChars (lookup : String → Option String) : List Char → List Char
  | [] => []
  | '$' :: '{' :: rest =>
    match h : splitAtBrace rest with
    | some (name, after) =>
      if name.isEmpty then '$' :: '{' :: substituteChars lookup rest
      else
        have := splitAtBrace_rest_length h
        let written := match lookup (String.ofList name) with
          | some value => value.toList
          | none => '$' :: '{' :: name ++ ['}']
        written ++ substituteChars lookup after
    | none => '$' :: '{' :: substituteChars lookup rest
  | c :: rest => c :: substituteChars lookup rest
termination_by cs => cs.length
decreasing_by all_goals simp only [List.length_cons]; omega

/-- **A text with its placeholders replaced,** the value of a name given by `lookup`. -/
def substituteWith (lookup : String → Option String) (text : String) : String :=
  String.ofList (substituteChars lookup text.toList)

/-- **The text with its placeholders replaced by the variables' values.** -/
def substitute (env : Environment) (text : String) : String :=
  substituteWith env.lookup text

end Environment

end ChatGateway
