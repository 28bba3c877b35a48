import ChatGateway.Config.Substitution
import Mathlib.Data.List.Infix

/-! # Placeholder substitution is one left-to-right scan

`Environment.substituteChars` replaces `${NAME}` placeholders in a text, the value of a name
given by any lookup. Its behaviour is stated as laws of a scan (`Environment.ScanLaws`): text
before the first `${` is copied; `${name}`, with a name of at least one character up to the
first `}`, becomes the name's value, inserted without being scanned again, or stays as written
when the name has no value; and a `${` with an empty name or no closing brace is copied, the scan
going on right after it.

* `Environment.scanLaws_substituteChars`: the substitution keeps these laws.
* `Environment.ScanLaws.eq_substituteChars`: the laws determine the substitution, so they say all
  it does on every text.
* `Environment.substituteWith_of_unset`: with no value for any name, a text is unchanged.
-/

namespace ChatGateway

namespace Environment

/-! ## (1) The first closing brace and the first `${` -/

variable (lookup : String → Option String)

/-- `splitAtBrace` finds the first closing brace. -/
theorem splitAtBrace_append {name : List Char} (h : '}' ∉ name) (after : List Char) :
    splitAtBrace (name ++ '}' :: after) = some (name, after) := by
  induction name with
  | nil => rfl
  | cons c name ih =>
    rw [List.mem_cons, not_or] at h
    rw [List.cons_append, splitAtBrace.eq_3 _ _ (Ne.symm h.1), ih h.2]
    rfl

theorem splitAtBrace_eq_none {cs : List Char} (h : '}' ∉ cs) : splitAtBrace cs = none := by
  induction cs with
  | nil => rfl
  | cons c cs ih =>
    rw [List.mem_cons, not_or] at h
    rw [splitAtBrace.eq_3 _ _ (Ne.symm h.1), ih h.2]
    rfl

/-- A text holding a closing brace splits at its first one. -/
theorem exists_first_brace {cs : List Char} (h : '}' ∈ cs) :
    ∃ name after, cs = name ++ '}' :: after ∧ '}' ∉ name := by
  induction cs with
  | nil => simp at h
  | cons c cs ih =>
    by_cases hc : c = '}'
    · exact ⟨[], cs, by rw [hc]; rfl, List.not_mem_nil⟩
    · obtain ⟨name, after, rfl, hname⟩ := ih ((List.mem_cons.1 h).resolve_left (Ne.symm hc))
      refine ⟨c :: name, after, rfl, ?_⟩
      rw [List.mem_cons, not_or]
      exact ⟨Ne.symm hc, hname⟩

/-- A text holding `${` splits at its first one. -/
theorem exists_first_opener {cs : List Char} (h : ['$', '{'] <:+: cs) :
    ∃ pre rest, cs = pre ++ '$' :: '{' :: rest ∧ ¬ ['$', '{'] <:+: pre := by
  induction cs with
  | nil => simp at h
  | cons c cs ih =>
    by_cases hc : ['$', '{'] <+: c :: cs
    · obtain ⟨rest, hrest⟩ := hc
      exact ⟨[], rest, hrest.symm, by simp⟩
    · obtain ⟨pre, rest, rfl, hpre⟩ := ih ((List.infix_cons_iff.1 h).resolve_left hc)
      refine ⟨c :: pre, rest, rfl, fun hin => ?_⟩
      rcases List.infix_cons_iff.1 hin with hp | hp
      · -- `${` at the front of `c :: pre` would be at the front of the whole text.
        exact hc (hp.trans (List.prefix_append (c :: pre) ('$' :: '{' :: rest)))
      · exact hpre hp

/-- What splitting at the first closing brace gives. -/
theorem splitAtBrace_eq_some {cs name after : List Char} (h : splitAtBrace cs = some (name, after)) :
    cs = name ++ '}' :: after ∧ '}' ∉ name := by
  by_cases hin : '}' ∈ cs
  · obtain ⟨name', after', rfl, hname'⟩ := exists_first_brace hin
    rw [splitAtBrace_append hname', Option.some.injEq, Prod.mk.injEq] at h
    obtain ⟨rfl, rfl⟩ := h
    exact ⟨rfl, hname'⟩
  · rw [splitAtBrace_eq_none hin] at h
    cases h

/-! ## (2) One step of the scan per case -/

/-- A character that does not start `${` is copied. -/
theorem substituteChars_cons {c : Char} {rest : List Char} (h : ¬ ['$', '{'] <+: c :: rest) :
    substituteChars lookup (c :: rest) = c :: substituteChars lookup rest := by
  refine substituteChars.eq_3 _ _ _ ?_
  rintro r rfl rfl
  exact h ⟨r, rfl⟩

/-- **A text without `${` is copied.** -/
theorem substituteChars_of_no_opener {cs : List Char} (h : ¬ ['$', '{'] <:+: cs) :
    substituteChars lookup cs = cs := by
  induction cs with
  | nil => exact substituteChars.eq_1 _
  | cons c rest ih =>
    rw [substituteChars_cons lookup fun hp => h hp.isInfix,
      ih fun hin => h (hin.trans (List.suffix_cons c rest).isInfix)]

/-- **The text before the first `${` is copied.** -/
theorem substituteChars_before {pre : List Char} (h : ¬ ['$', '{'] <:+: pre) (rest : List Char) :
    substituteChars lookup (pre ++ '$' :: '{' :: rest) =
      pre ++ substituteChars lookup ('$' :: '{' :: rest) := by
  induction pre with
  | nil => rfl
  | cons c pre ih =>
    have hfront : ¬ ['$', '{'] <+: c :: (pre ++ '$' :: '{' :: rest) := by
      rintro ⟨r, hr⟩
      cases pre with
      | nil => simp at hr
      | cons d pre =>
        simp only [List.cons_append, List.cons.injEq] at hr
        obtain ⟨rfl, rfl, -⟩ := hr
        exact h (List.prefix_append ['$', '{'] pre).isInfix
    rw [List.cons_append, substituteChars_cons lookup hfront,
      ih fun hin => h (hin.trans (List.suffix_cons c pre).isInfix), List.cons_append]

/-- A placeholder is replaced by what its name's lookup gives, and the scan goes on after its
closing brace. -/
theorem substituteChars_placeholder {name : List Char} (hname : name ≠ []) (hclose : '}' ∉ name)
    (after : List Char) :
    substituteChars lookup ('$' :: '{' :: (name ++ '}' :: after)) =
      ((lookup (String.ofList name)).map String.toList).getD ('$' :: '{' :: name ++ ['}']) ++
        substituteChars lookup after := by
  rw [substituteChars.eq_2]
  split
  · rename_i name' after' hsplit
    rw [splitAtBrace_append hclose, Option.some.injEq, Prod.mk.injEq] at hsplit
    obtain ⟨rfl, rfl⟩ := hsplit
    rw [if_neg (by simpa using hname)]
    cases lookup (String.ofList name) <;> rfl
  · rename_i hsplit
    rw [splitAtBrace_append hclose] at hsplit
    cases hsplit

/-- **A `${` with no name or no closing brace is copied,** and the scan goes on right after it. -/
theorem substituteChars_malformed {rest : List Char} (h : '}' ∉ rest ∨ rest.head? = some '}') :
    substituteChars lookup ('$' :: '{' :: rest) = '$' :: '{' :: substituteChars lookup rest := by
  rw [substituteChars.eq_2]
  split
  · rename_i name after hsplit
    -- A closing brace was found, so it comes first and the name is empty.
    obtain ⟨rfl, hclose⟩ := splitAtBrace_eq_some hsplit
    have hname : name = [] := by
      rcases h with h | h
      · exact absurd (List.mem_append_right _ List.mem_cons_self) h
      · cases name with
        | nil => rfl
        | cons c name =>
          rw [List.cons_append, List.head?_cons, Option.some.injEq] at h
          exact absurd (h ▸ List.mem_cons_self) hclose
    rw [if_pos (by simp [hname])]
  · rfl

/-! ## (3) The laws of the scan -/

/-- **The laws of one left-to-right scan for placeholders,** the value of a name given by
`lookup`. -/
structure ScanLaws (g : List Char → List Char) : Prop where
  /-- A text without `${` is copied. -/
  plain : ∀ cs, ¬ ['$', '{'] <:+: cs → g cs = cs
  /-- The text before the first `${` is copied. -/
  before : ∀ pre rest, ¬ ['$', '{'] <:+: pre →
    g (pre ++ '$' :: '{' :: rest) = pre ++ g ('$' :: '{' :: rest)
  /-- A placeholder whose name has a value becomes the value, which is not scanned again. -/
  found : ∀ name after value, name ≠ [] → '}' ∉ name → lookup (String.ofList name) = some value →
    g ('$' :: '{' :: (name ++ '}' :: after)) = value.toList ++ g after
  /-- A placeholder whose name has no value stays as written. -/
  unset : ∀ name after, name ≠ [] → '}' ∉ name → lookup (String.ofList name) = none →
    g ('$' :: '{' :: (name ++ '}' :: after)) = '$' :: '{' :: (name ++ '}' :: g after)
  /-- A `${` with no name or no closing brace is copied, and the scan goes on right after it. -/
  malformed : ∀ rest, '}' ∉ rest ∨ rest.head? = some '}' →
    g ('$' :: '{' :: rest) = '$' :: '{' :: g rest

/-- The substitution keeps the laws of the scan. -/
theorem scanLaws_substituteChars : ScanLaws lookup (substituteChars lookup) where
  plain _ h := substituteChars_of_no_opener lookup h
  before _ rest h := substituteChars_before lookup h rest
  found name after value hname hclose hv := by
    rw [substituteChars_placeholder lookup hname hclose, hv]
    rfl
  unset name after hname hclose hv := by
    rw [substituteChars_placeholder lookup hname hclose, hv]
    simp
  malformed _ h := substituteChars_malformed lookup h

/-- **The laws of the scan determine it:** every function that keeps them is the substitution. -/
theorem ScanLaws.eq_substituteChars {g : List Char → List Char} (hg : ScanLaws lookup g)
    (cs : List Char) : g cs = substituteChars lookup cs := by
  obtain ⟨n, hn⟩ : ∃ n, cs.length = n := ⟨_, rfl⟩
  induction n using Nat.strong_induction_on generalizing cs with
  | _ n ih =>
    by_cases hop : ['$', '{'] <:+: cs
    · -- Copy up to the first `${`, then read what follows it.
      obtain ⟨pre, rest, rfl, hpre⟩ := exists_first_opener hop
      have hrest : ∀ cs', cs'.length ≤ rest.length → g cs' = substituteChars lookup cs' :=
        fun cs' hlen => ih cs'.length (by simp at hn; omega) cs' rfl
      rw [hg.before _ _ hpre, substituteChars_before lookup hpre]
      congr 1
      by_cases hb : '}' ∈ rest
      · obtain ⟨name, after, rfl, hclose⟩ := exists_first_brace hb
        have hafter := hrest after (by simp only [List.length_append, List.length_cons]; omega)
        cases name with
        | nil =>
          rw [hg.malformed _ (.inr rfl), substituteChars_malformed lookup (.inr rfl),
            hrest _ le_rfl]
        | cons c name =>
          cases hv : lookup (String.ofList (c :: name)) with
          | none =>
            rw [hg.unset _ _ (List.cons_ne_nil _ _) hclose hv,
              (scanLaws_substituteChars lookup).unset _ _ (List.cons_ne_nil _ _) hclose hv, hafter]
          | some value =>
            rw [hg.found _ _ _ (List.cons_ne_nil _ _) hclose hv,
              (scanLaws_substituteChars lookup).found _ _ _ (List.cons_ne_nil _ _) hclose hv, hafter]
      · rw [hg.malformed _ (.inl hb), substituteChars_malformed lookup (.inl hb), hrest _ le_rfl]
    · rw [hg.plain _ hop, substituteChars_of_no_opener lookup hop]

/-- **When no name has a value, the text is unchanged.** -/
theorem substituteWith_of_unset (h : ∀ name, lookup name = none) (text : String) :
    substituteWith lookup text = text := by
  -- The identity keeps the laws when nothing is found.
  have hid : ScanLaws lookup id :=
    { plain := fun _ _ => rfl
      before := fun _ _ _ => rfl
      found := fun _ _ _ _ _ hv => by rw [h] at hv; cases hv
      unset := fun _ _ _ _ _ => rfl
      malformed := fun _ _ => rfl }
  rw [substituteWith, ← hid.eq_substituteChars, id, String.ofList_toList]

/-- **Substitution is the scan for placeholders:** it keeps the scan's laws, every function
that keeps them is the substitution, and a lookup that finds no name leaves every text as it
is. -/
theorem substitute_scan :
    ScanLaws lookup (substituteChars lookup) ∧
      (∀ g, ScanLaws lookup g → g = substituteChars lookup) ∧
      ((∀ name, lookup name = none) → ∀ text, substituteWith lookup text = text) :=
  ⟨scanLaws_substituteChars lookup, fun _ hg => funext hg.eq_substituteChars,
    substituteWith_of_unset lookup⟩

end Environment

end ChatGateway
