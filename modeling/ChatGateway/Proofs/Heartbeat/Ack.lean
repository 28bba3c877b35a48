import Mathlib.Data.List.Infix
import Mathlib.Data.List.TakeWhile
import ChatGateway.Heartbeat.Ack

/-! # Stripping the acknowledgement token

What `Heartbeat.stripAck` keeps of a heartbeat reply, and when it suppresses the reply.

* `Text.occursIn_iff_infix`: the occurrence test is the infix relation.
* `Text.infix_trim_iff`: trimming a text neither adds nor removes an occurrence of a piece that
  begins and ends with non-blank characters, such as the token.
* `Text.trim_trim`: a trimmed text has nothing left to trim.
* `Heartbeat.didStrip_iff`: the token was stripped exactly when the reply contains it. The bold
  forms contain the plain token, so removing them first never changes the answer.
* `Heartbeat.shouldSkip_iff`: a reply is suppressed exactly when nothing is left of it, or when it
  contains the token and what is left has at most the limit in characters.
* `Heartbeat.stripAck_of_not_token`: a reply without the token is only trimmed.
* `Heartbeat.stripAck_token_free`: when every `H` of a reply begins the token, nothing of the token
  is left, and a second strip changes nothing.
* `Heartbeat.stripAck_leaves_joined_token`: otherwise a token can be left. Removing the token
  from `HEARTBEAT_HEARTBEAT_OKOK` joins the text around it into a new one.
-/

namespace ChatGateway

namespace Text

/-! ## (1) Occurrences and trimming -/

/-- **The occurrence test is the infix relation.** -/
theorem occursIn_iff_infix {piece : List Char} :
    {cs : List Char} → occursIn piece cs = true ↔ piece <:+: cs
  | [] => by simp [occursIn, List.isEmpty_iff]
  | c :: rest => by
    rw [occursIn, Bool.or_eq_true, List.isPrefixOf_iff_prefix, occursIn_iff_infix,
      List.infix_cons_iff]

/-- **Leading blanks hide no occurrence** of a piece that begins with a non-blank character. -/
theorem infix_dropBlanks_iff {piece : List Char} (h : ∀ c ∈ piece.head?, isBlank c = false)
    {cs : List Char} : piece <:+: dropBlanks cs ↔ piece <:+: cs := by
  refine ⟨fun hp => hp.trans (List.dropWhile_suffix isBlank).isInfix, fun hp => ?_⟩
  unfold dropBlanks
  induction cs with
  | nil => exact hp
  | cons c rest ih =>
    rw [List.dropWhile_cons]
    split
    · rename_i hc
      rcases List.infix_cons_iff.1 hp with hpre | hin
      · -- An occurrence starting at the blank `c` would begin with a blank.
        cases piece with
        | nil => exact List.nil_infix
        | cons d ds =>
          obtain ⟨rfl, -⟩ := List.cons_prefix_cons.1 hpre
          simp [hc] at h
      · exact ih hin
    · exact hp

theorem toList_trim (s : String) :
    (trim s).toList = (dropBlanks (dropBlanks s.toList).reverse).reverse := by
  simp only [trim, String.toList_ofList]

/-- **Trimming keeps every occurrence of a piece with non-blank ends, and adds none.** -/
theorem infix_trim_iff {piece : List Char} (hfirst : ∀ c ∈ piece.head?, isBlank c = false)
    (hlast : ∀ c ∈ piece.getLast?, isBlank c = false) {s : String} :
    piece <:+: (trim s).toList ↔ piece <:+: s.toList := by
  have hrev : ∀ c ∈ piece.reverse.head?, isBlank c = false := by rwa [List.head?_reverse]
  calc piece <:+: (trim s).toList
      ↔ piece.reverse <:+: dropBlanks (dropBlanks s.toList).reverse := by
        rw [toList_trim, ← List.reverse_infix, List.reverse_reverse]
    _ ↔ piece.reverse <:+: (dropBlanks s.toList).reverse := infix_dropBlanks_iff hrev
    _ ↔ piece <:+: dropBlanks s.toList := List.reverse_infix
    _ ↔ piece <:+: s.toList := infix_dropBlanks_iff hfirst

/-- What dropping leading blanks leaves begins with a non-blank character. -/
theorem head?_dropBlanks : (cs : List Char) → ∀ c ∈ (dropBlanks cs).head?, isBlank c = false
  | [] => by simp [dropBlanks]
  | c :: rest => by
    unfold dropBlanks
    rw [List.dropWhile_cons]
    split
    · exact head?_dropBlanks rest
    · rename_i hc
      simpa using hc

/-- A list that begins with a non-blank character has no leading blanks to drop. -/
theorem dropBlanks_of_head? {cs : List Char} (h : ∀ c ∈ cs.head?, isBlank c = false) :
    dropBlanks cs = cs := by
  cases cs with
  | nil => rfl
  | cons c rest =>
    unfold dropBlanks
    rw [List.dropWhile_cons, if_neg (by simpa using h)]

/-- **A text that ends with a non-blank character loses only its leading blanks** when trimmed. -/
theorem toList_trim_of_getLast? {s : String} (h : ∀ c ∈ s.toList.getLast?, isBlank c = false) :
    (trim s).toList = dropBlanks s.toList := by
  -- What is left once the leading blanks are gone ends as the text does.
  have hlast : ∀ c ∈ (dropBlanks s.toList).reverse.head?, isBlank c = false := by
    rw [List.head?_reverse]
    intro c hc
    obtain ⟨before, hbefore⟩ := List.dropWhile_suffix (l := s.toList) isBlank
    have hsplit : before ++ dropBlanks s.toList = s.toList := hbefore
    apply h c
    rw [← hsplit, List.getLast?_append, Option.mem_def.1 hc]
    rfl
  rw [toList_trim, dropBlanks_of_head? hlast, List.reverse_reverse]

/-- **A trimmed text has nothing left to trim.** -/
theorem trim_trim (s : String) : trim (trim s) = trim s := by
  -- `back.reverse` is the trimmed text: `front` with its trailing blanks dropped.
  set front := dropBlanks s.toList
  set back := dropBlanks front.reverse
  have hkept : back.reverse <+: front := by
    have h : back.reverse <+: front.reverse.reverse :=
      List.reverse_prefix.2 (List.dropWhile_suffix isBlank)
    rwa [List.reverse_reverse] at h
  -- It begins as `front` does, with a non-blank character.
  have hhead : ∀ c ∈ back.reverse.head?, isBlank c = false := by
    intro c hc
    obtain ⟨after, hafter⟩ := hkept
    have hfront : front.head? = some c := by
      rw [← hafter, List.head?_append, Option.mem_def.1 hc]
      rfl
    exact head?_dropBlanks s.toList c hfront
  have hback : dropBlanks back = back := dropBlanks_of_head? (head?_dropBlanks _)
  rw [← String.toList_inj, toList_trim, toList_trim, dropBlanks_of_head? hhead,
    List.reverse_reverse, hback]

end Text

namespace Heartbeat

/-! ## (2) Which forms of the token a reply contained -/

/-- A form that does not occur leaves the reply and the mark as they were. -/
theorem removeForm_of_not {cs : List Char} {form : String}
    (h : Text.occursIn form.toList cs = false) (seen : Bool) :
    removeForm (cs, seen) form = (cs, seen) := by
  simp [removeForm, h]

/-- A form that occurs is removed, and the mark is set. -/
theorem removeForm_of_occurs {cs : List Char} {form : String}
    (h : Text.occursIn form.toList cs = true) (seen : Bool) :
    removeForm (cs, seen) form = (Text.replaceAll form.toList [] cs, true) := by
  simp [removeForm, h]

/-- Once set, the mark stays set. -/
theorem removeForm_snd {acc : List Char × Bool} (h : acc.2 = true) (form : String) :
    (removeForm acc form).2 = true := by
  obtain ⟨cs, seen⟩ := acc
  by_cases ho : Text.occursIn form.toList cs = true
  · rw [removeForm_of_occurs ho]
  · rw [removeForm_of_not (Bool.eq_false_iff.2 ho)]
    exact h

/-- The bold forms of the token contain it. -/
theorem token_infix_forms :
    ackToken.toList <:+: ("**" ++ ackToken ++ "**").toList ∧
      ackToken.toList <:+: ("<b>" ++ ackToken ++ "</b>").toList :=
  ⟨Text.occursIn_iff_infix.1 (by decide), Text.occursIn_iff_infix.1 (by decide)⟩

/-- The token begins and ends with non-blank characters, so trimming neither hides nor makes one. -/
theorem token_ends_not_blank :
    (∀ c ∈ ackToken.toList.head?, Text.isBlank c = false) ∧
      ∀ c ∈ ackToken.toList.getLast?, Text.isBlank c = false := by
  have hhead : ackToken.toList.head? = some 'H' := rfl
  have hlast : ackToken.toList.getLast? = some 'K' := rfl
  rw [hhead, hlast]
  exact ⟨fun c hc => by rw [← Option.mem_some_iff.1 hc]; rfl,
    fun c hc => by rw [← Option.mem_some_iff.1 hc]; rfl⟩

/-- **The mark is set exactly when the token occurs** in the text the forms are removed from. -/
theorem foldl_removeForm_snd (cs : List Char) :
    (ackForms.foldl removeForm (cs, false)).2 = true ↔ ackToken.toList <:+: cs := by
  obtain ⟨hbold, hhtml⟩ := token_infix_forms
  rw [ackForms, List.foldl_cons, List.foldl_cons, List.foldl_cons, List.foldl_nil]
  -- The forms are tried in order, and the first that occurs sets the mark for good.
  by_cases h1 : Text.occursIn ("**" ++ ackToken ++ "**").toList cs = true
  · rw [removeForm_of_occurs h1]
    exact iff_of_true (removeForm_snd (removeForm_snd rfl _) _)
      (hbold.trans (Text.occursIn_iff_infix.1 h1))
  rw [removeForm_of_not (Bool.eq_false_iff.2 h1)]
  by_cases h2 : Text.occursIn ("<b>" ++ ackToken ++ "</b>").toList cs = true
  · rw [removeForm_of_occurs h2]
    exact iff_of_true (removeForm_snd rfl _) (hhtml.trans (Text.occursIn_iff_infix.1 h2))
  rw [removeForm_of_not (Bool.eq_false_iff.2 h2)]
  by_cases h3 : Text.occursIn ackToken.toList cs = true
  · rw [removeForm_of_occurs h3]
    exact iff_of_true rfl (Text.occursIn_iff_infix.1 h3)
  · rw [removeForm_of_not (Bool.eq_false_iff.2 h3)]
    exact iff_of_false Bool.false_ne_true fun h => h3 (Text.occursIn_iff_infix.2 h)

/-! ## (3) The check of a reply -/

/-- The check of a reply, field by field, from the fold over the forms. -/
theorem stripAck_eq (reply : String) (n : Nat) :
    stripAck reply n =
      let r := ackForms.foldl removeForm ((Text.trim reply).toList, false)
      { shouldSkip := (Text.trim (String.ofList r.1)).isEmpty ||
          (r.2 && decide ((Text.trim (String.ofList r.1)).length ≤ n)),
        text := Text.trim (String.ofList r.1), didStrip := r.2 } := by
  unfold stripAck
  generalize ackForms.foldl removeForm ((Text.trim reply).toList, false) = r
  rfl

/-- **The token was stripped exactly when the reply contains it,** blanks around the reply
apart: the token begins and ends with non-blank characters. -/
theorem didStrip_iff (reply : String) (n : Nat) :
    (stripAck reply n).didStrip = true ↔ ackToken.toList <:+: reply.toList := by
  rw [stripAck_eq]
  dsimp only
  exact (foldl_removeForm_snd _).trans
    (Text.infix_trim_iff token_ends_not_blank.1 token_ends_not_blank.2)

/-- **What is left of a reply is trimmed.** -/
theorem trim_text (reply : String) (n : Nat) :
    Text.trim (stripAck reply n).text = (stripAck reply n).text := by
  rw [stripAck_eq]
  dsimp only
  exact Text.trim_trim _

theorem shouldSkip_eq (reply : String) (n : Nat) :
    (stripAck reply n).shouldSkip = ((stripAck reply n).text.isEmpty ||
      ((stripAck reply n).didStrip && decide ((stripAck reply n).text.length ≤ n))) := by
  rw [stripAck_eq]

/-- **A reply is suppressed** exactly when nothing is left of it, or when it contains the token
and what is left has at most `n` characters. -/
theorem shouldSkip_iff (reply : String) (n : Nat) :
    (stripAck reply n).shouldSkip = true ↔
      (stripAck reply n).text = "" ∨
        (ackToken.toList <:+: reply.toList ∧ (stripAck reply n).text.length ≤ n) := by
  rw [shouldSkip_eq, ← didStrip_iff reply n]
  simp only [Bool.or_eq_true, String.isEmpty_iff, Bool.and_eq_true, decide_eq_true_eq]

/-- **A reply that is not suppressed has something left.** -/
theorem text_ne_of_shouldSkip_false {reply : String} {n : Nat}
    (h : (stripAck reply n).shouldSkip = false) : (stripAck reply n).text ≠ "" := by
  intro hempty
  have hskip := (shouldSkip_iff reply n).2 (.inl hempty)
  rw [h] at hskip
  cases hskip

theorem toList_ackToken : ackToken.toList = 'H' :: "EARTBEAT_OK".toList := rfl

/-- None of the forms begins with a letter of the token after its `H`. -/
theorem head_ackForms_not_later :
    ∀ form ∈ ackForms, ∀ d ∈ "EARTBEAT_OK".toList, form.toList.head? ≠ some d := by
  have hbold : ("**" ++ ackToken ++ "**").toList.head? = some '*' := rfl
  have hhtml : ("<b>" ++ ackToken ++ "</b>").toList.head? = some '<' := rfl
  have hplain : ackToken.toList.head? = some 'H' := rfl
  have hlater : "EARTBEAT_OK".toList = ['E', 'A', 'R', 'T', 'B', 'E', 'A', 'T', '_', 'O', 'K'] :=
    rfl
  simp only [ackForms, List.mem_cons, List.not_mem_nil, or_false, forall_eq_or_imp, forall_eq,
    hbold, hhtml, hplain, hlater, ne_eq, Option.some.injEq]
  decide

/-! ## (4) A reply without the token -/

/-- **A reply without the token is only trimmed**, and is suppressed only when it is blank. -/
theorem stripAck_of_not_token {reply : String} (h : ¬ ackToken.toList <:+: reply.toList)
    (m : Nat) : stripAck reply m =
      { shouldSkip := (Text.trim reply).isEmpty, text := Text.trim reply, didStrip := false } := by
  obtain ⟨hbold, hhtml⟩ := token_infix_forms
  have ht : ¬ ackToken.toList <:+: (Text.trim reply).toList := by
    rwa [Text.infix_trim_iff token_ends_not_blank.1 token_ends_not_blank.2]
  -- Every form contains the token, so none occurs.
  have hno : ∀ form : String, ackToken.toList <:+: form.toList →
      Text.occursIn form.toList (Text.trim reply).toList = false := fun form hform =>
    Bool.eq_false_iff.2 fun ho => ht (hform.trans (Text.occursIn_iff_infix.1 ho))
  have hfold : ackForms.foldl removeForm ((Text.trim reply).toList, false) =
      ((Text.trim reply).toList, false) := by
    rw [ackForms, List.foldl_cons, List.foldl_cons, List.foldl_cons, List.foldl_nil,
      removeForm_of_not (hno _ hbold), removeForm_of_not (hno _ hhtml),
      removeForm_of_not (hno _ List.infix_rfl)]
  rw [stripAck_eq]
  simp only [hfold, String.ofList_toList, Text.trim_trim, Bool.false_and, Bool.or_false]

end Heartbeat

namespace Text

/-! ## (5) Removing every occurrence of a piece -/

variable {piece : List Char}

theorem replaceAll_of_isPrefixOf {replacement : List Char} {c : Char} {rest : List Char}
    (h : piece ≠ [] ∧ piece.isPrefixOf (c :: rest) = true) :
    replaceAll piece replacement (c :: rest) =
      replacement ++ replaceAll piece replacement ((c :: rest).drop piece.length) := by
  rw [replaceAll, dif_pos h]

theorem replaceAll_of_not_isPrefixOf {replacement : List Char} {c : Char} {rest : List Char}
    (h : ¬ (piece ≠ [] ∧ piece.isPrefixOf (c :: rest) = true)) :
    replaceAll piece replacement (c :: rest) = c :: replaceAll piece replacement rest := by
  rw [replaceAll, dif_neg h]

/-- **Characters none of which begins the piece are kept as they are.** -/
theorem replaceAll_append_of_not_head {u : List Char} (hu : ∀ d ∈ u, piece.head? ≠ some d)
    (rest : List Char) : replaceAll piece [] (u ++ rest) = u ++ replaceAll piece [] rest := by
  induction u with
  | nil => rfl
  | cons d u ih =>
    have hkept : ¬ (piece ≠ [] ∧ piece.isPrefixOf (d :: (u ++ rest)) = true) := by
      rintro ⟨hp, hpre⟩
      obtain ⟨e, p', rfl⟩ := List.exists_cons_of_ne_nil hp
      obtain ⟨rfl, -⟩ := List.cons_prefix_cons.1 (List.isPrefixOf_iff_prefix.1 hpre)
      exact hu e List.mem_cons_self rfl
    rw [List.cons_append, replaceAll_of_not_isPrefixOf hkept,
      ih fun d hd => hu d (List.mem_cons_of_mem _ hd), List.cons_append]

end Text

namespace Heartbeat

/-! ## (6) Replies in which every `H` begins the token

Removing a form can join the text on its two sides, and the join can spell the token anew. No
join does so when every `H` of the reply begins the token: that property survives trimming and
the removal of each bold form, and removing the plain token then leaves no `H` at all. -/

/-- Whether every `H` of a text begins an occurrence of the token. -/
def initialsOpenToken : List Char → Bool
  | [] => true
  | c :: rest => (c != 'H' || ackToken.toList.isPrefixOf (c :: rest)) && initialsOpenToken rest

theorem initialsOpenToken_cons {c : Char} {rest : List Char} :
    initialsOpenToken (c :: rest) = true ↔
      (c = 'H' → ackToken.toList <+: c :: rest) ∧ initialsOpenToken rest = true := by
  rw [initialsOpenToken, Bool.and_eq_true, Bool.or_eq_true, bne_iff_ne,
    List.isPrefixOf_iff_prefix, ← Decidable.imp_iff_not_or]

/-- What follows a part of a text keeps the property. -/
theorem initialsOpenToken_of_append {rest : List Char} :
    (u : List Char) → initialsOpenToken (u ++ rest) = true → initialsOpenToken rest = true
  | [], h => h
  | _ :: u, h => initialsOpenToken_of_append u (initialsOpenToken_cons.1 h).2

theorem initialsOpenToken_drop {cs : List Char} (k : Nat) (h : initialsOpenToken cs = true) :
    initialsOpenToken (cs.drop k) = true := by
  rw [← List.take_append_drop k cs] at h
  exact initialsOpenToken_of_append _ h

/-- **Trailing blanks hold no part of a token**, since the token ends with `K`, so a text keeps
the property without them. -/
theorem initialsOpenToken_of_append_blanks {trail : List Char}
    (htrail : ∀ c ∈ trail, Text.isBlank c = true) :
    (core : List Char) → initialsOpenToken (core ++ trail) = true → initialsOpenToken core = true
  | [], _ => rfl
  | c :: core, h => by
    obtain ⟨hc, hrest⟩ := initialsOpenToken_cons.1 h
    refine initialsOpenToken_cons.2
      ⟨fun hH => ?_, initialsOpenToken_of_append_blanks htrail core hrest⟩
    have hp : ackToken.toList <+: (c :: core) ++ trail := hc hH
    by_cases hlen : ackToken.toList.length ≤ (c :: core).length
    · exact List.prefix_of_prefix_length_le hp (List.prefix_append _ _) hlen
    -- Otherwise the token would run on into the blanks, and its last letter would be one.
    · obtain ⟨w, hw⟩ := List.prefix_of_prefix_length_le (List.prefix_append (c :: core) trail) hp
        (by omega)
      have hw' : w ≠ [] := by
        rintro rfl
        rw [List.append_nil] at hw
        rw [hw] at hlen
        exact hlen le_rfl
      rw [← hw, List.prefix_append_right_inj] at hp
      have hlast : w.getLast hw' ∈ ackToken.toList.getLast? := by
        rw [← hw, List.getLast?_append_of_ne_nil _ hw', List.getLast?_eq_some_getLast hw']
        rfl
      have := token_ends_not_blank.2 _ hlast
      rw [htrail _ (hp.subset (List.getLast_mem hw'))] at this
      cases this

/-- **Trimming keeps the property.** -/
theorem initialsOpenToken_trim {s : String} (h : initialsOpenToken s.toList = true) :
    initialsOpenToken (Text.trim s).toList = true := by
  set l := Text.dropBlanks s.toList
  have hl : initialsOpenToken l = true := by
    rw [← List.takeWhile_append_dropWhile (p := Text.isBlank) (l := s.toList)] at h
    exact initialsOpenToken_of_append _ h
  -- The trimmed text is what comes before the trailing blanks of l.
  have hsplit : l = (l.reverse.dropWhile Text.isBlank).reverse ++
      (l.reverse.takeWhile Text.isBlank).reverse := by
    rw [← List.reverse_append, List.takeWhile_append_dropWhile, List.reverse_reverse]
  rw [hsplit] at hl
  rw [Text.toList_trim]
  exact initialsOpenToken_of_append_blanks
    (fun c hc => List.mem_takeWhile_imp (List.mem_reverse.1 hc)) _ hl

/-- **Removing a piece keeps the property** when the piece begins with none of the token's
letters after its `H`: an `H` that stays keeps the rest of its token after it. -/
theorem initialsOpenToken_replaceAll {piece : List Char}
    (hpiece : ∀ d ∈ "EARTBEAT_OK".toList, piece.head? ≠ some d) {cs : List Char}
    (h : initialsOpenToken cs = true) : initialsOpenToken (Text.replaceAll piece [] cs) = true := by
  induction cs using Text.replaceAll.induct piece with
  | case1 => rw [Text.replaceAll.eq_1]; rfl
  | case2 c rest hfound _ ih =>
    rw [Text.replaceAll_of_isPrefixOf hfound, List.nil_append]
    exact ih (initialsOpenToken_drop _ h)
  | case3 c rest hkept ih =>
    rw [Text.replaceAll_of_not_isPrefixOf hkept]
    obtain ⟨hc, hrest⟩ := initialsOpenToken_cons.1 h
    refine initialsOpenToken_cons.2 ⟨fun hH => ?_, ih hrest⟩
    obtain ⟨after, hafter⟩ := hc hH
    subst hH
    rw [toList_ackToken, List.cons_append, List.cons.injEq] at hafter
    rw [← hafter.2, Text.replaceAll_append_of_not_head hpiece, toList_ackToken]
    exact (List.prefix_cons_inj 'H').2 (List.prefix_append _ _)

/-- **Removing the token leaves no `H`** of a text in which every `H` begins the token. -/
theorem not_mem_replaceAll_token {cs : List Char} (h : initialsOpenToken cs = true) :
    'H' ∉ Text.replaceAll ackToken.toList [] cs := by
  induction cs using Text.replaceAll.induct ackToken.toList with
  | case1 => rw [Text.replaceAll.eq_1]; exact List.not_mem_nil
  | case2 c rest hfound _ ih =>
    rw [Text.replaceAll_of_isPrefixOf hfound, List.nil_append]
    exact ih (initialsOpenToken_drop _ h)
  | case3 c rest hkept ih =>
    rw [Text.replaceAll_of_not_isPrefixOf hkept]
    obtain ⟨hc, hrest⟩ := initialsOpenToken_cons.1 h
    -- An `H` kept here would begin the token, which would have been removed.
    have hne : c ≠ 'H' := fun hH => hkept
      ⟨by rw [toList_ackToken]; exact List.cons_ne_nil _ _, List.isPrefixOf_iff_prefix.2 (hc hH)⟩
    rw [List.mem_cons, not_or]
    exact ⟨Ne.symm hne, ih hrest⟩

/-- A text in which every `H` begins the token, and which does not contain it, has no `H`. -/
theorem not_mem_of_not_token {cs : List Char} (h : initialsOpenToken cs = true)
    (hno : ¬ ackToken.toList <:+: cs) : 'H' ∉ cs := by
  intro hmem
  obtain ⟨pre, suf, rfl⟩ := List.append_of_mem hmem
  have htoken := (initialsOpenToken_cons.1 (initialsOpenToken_of_append pre h)).1 rfl
  exact hno (htoken.isInfix.trans (List.suffix_append pre _).isInfix)

theorem initialsOpenToken_removeForm {form : String} (hform : form ∈ ackForms)
    {acc : List Char × Bool} (h : initialsOpenToken acc.1 = true) :
    initialsOpenToken (removeForm acc form).1 = true := by
  obtain ⟨cs, seen⟩ := acc
  by_cases ho : Text.occursIn form.toList cs = true
  · rw [removeForm_of_occurs ho]
    exact initialsOpenToken_replaceAll (head_ackForms_not_later form hform) h
  · rw [removeForm_of_not (Bool.eq_false_iff.2 ho)]
    exact h

theorem not_mem_removeForm_token {acc : List Char × Bool} (h : initialsOpenToken acc.1 = true) :
    'H' ∉ (removeForm acc ackToken).1 := by
  obtain ⟨cs, seen⟩ := acc
  by_cases ho : Text.occursIn ackToken.toList cs = true
  · rw [removeForm_of_occurs ho]
    exact not_mem_replaceAll_token h
  · rw [removeForm_of_not (Bool.eq_false_iff.2 ho)]
    exact not_mem_of_not_token h fun hin => ho (Text.occursIn_iff_infix.2 hin)

/-- **A reply in which every `H` begins the token is stripped of it for good.** Nothing of the
token is left, so stripping what is left again changes nothing and strips nothing: a delivered
reply of this kind never shows the token. -/
theorem stripAck_token_free (reply : String) (n : Nat)
    (h : initialsOpenToken reply.toList = true) :
    ¬ ackToken.toList <:+: (stripAck reply n).text.toList ∧
      ∀ m, stripAck (stripAck reply n).text m =
        { shouldSkip := (stripAck reply n).text.isEmpty, text := (stripAck reply n).text,
          didStrip := false } := by
  have hno : ¬ ackToken.toList <:+: (stripAck reply n).text.toList := by
    rw [stripAck_eq]
    dsimp only
    rw [Text.infix_trim_iff token_ends_not_blank.1 token_ends_not_blank.2, String.toList_ofList,
      ackForms, List.foldl_cons, List.foldl_cons, List.foldl_cons, List.foldl_nil]
    -- The bold forms keep every `H` at the front of a token; the plain one then leaves none.
    have hH := not_mem_removeForm_token
      (initialsOpenToken_removeForm (List.mem_cons_of_mem _ List.mem_cons_self)
        (@initialsOpenToken_removeForm _ List.mem_cons_self ((Text.trim reply).toList, false)
          (initialsOpenToken_trim h)))
    exact fun hin => hH (hin.subset (by rw [toList_ackToken]; exact List.mem_cons_self))
  refine ⟨hno, fun m => ?_⟩
  rw [stripAck_of_not_token hno, trim_text]

/-- **A token can be left.** Removing the inner token of `HEARTBEAT_HEARTBEAT_OKOK` joins
`HEARTBEAT_` and `OK` into a new one, and the reply is delivered with it. -/
theorem stripAck_leaves_joined_token :
    stripAck "HEARTBEAT_HEARTBEAT_OKOK" 5 =
      { shouldSkip := false, text := "HEARTBEAT_OK", didStrip := true } := by
  decide +kernel

end Heartbeat

end ChatGateway
