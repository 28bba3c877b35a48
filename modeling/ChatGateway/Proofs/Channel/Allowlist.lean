import Mathlib.Data.List.Infix
import ChatGateway.Allowlist

/-! # Allowlist patterns match what they say

A pattern with stars stands for the texts obtained by putting any text, possibly empty, in place
of each star (`Glob.Expands`). `Glob.accepts` decides this without backtracking: it anchors the
piece before the first star at the start of the text and the piece after the last star at its
end, checks that the two do not overlap, and then finds the pieces in between one after the
other, each at its leftmost occurrence. This file proves that the greedy search finds every
match, and so that an allowlist admits exactly the senders its patterns describe.

* `Glob.Joins`, `Glob.expands_iff_joins`: a pattern read as its pieces between stars.
* `Glob.Occur`: pieces occurring in order, with gaps around them.
* `Glob.dropThrough_of_split`: the exchange step of the greedy search; the leftmost occurrence of
  a piece leaves at least the text that any other occurrence leaves.
* `Glob.inOrder_iff_occur`: the greedy search decides `Occur`.
* `Glob.anchored_iff`: the length bound with the prefix and suffix tests splits the text into
  head, middle and tail, and the middle is the slice the search runs on.
* `Glob.accepts_iff_expands`, `Allowlist.admits_iff`: the whole.
-/

namespace ChatGateway

namespace Glob

/-! ## (1) What a pattern stands for -/

/-- **The texts a pattern stands for:** every character but `*` stands for itself, and each `*`
for any text, possibly empty. -/
inductive Expands : List Char → List Char → Prop
  | nil : Expands [] []
  | char {c : Char} {pattern text : List Char} :
      c ≠ '*' → Expands pattern text → Expands (c :: pattern) (c :: text)
  | star {pattern text : List Char} (fill : List Char) :
      Expands pattern text → Expands ('*' :: pattern) (fill ++ text)

theorem expands_nil_iff {text : List Char} : Expands [] text ↔ text = [] := by
  constructor
  · rintro ⟨⟩
    rfl
  · rintro rfl
    exact .nil

theorem expands_char_iff {c : Char} (hc : c ≠ '*') {pattern text : List Char} :
    Expands (c :: pattern) text ↔ ∃ rest, text = c :: rest ∧ Expands pattern rest := by
  constructor
  · rintro (_ | ⟨-, h⟩ | ⟨fill, h⟩)
    · exact ⟨_, rfl, h⟩
    · exact absurd rfl hc
  · rintro ⟨rest, rfl, h⟩
    exact .char hc h

theorem expands_star_iff {pattern text : List Char} :
    Expands ('*' :: pattern) text ↔ ∃ fill rest, text = fill ++ rest ∧ Expands pattern rest := by
  constructor
  · rintro (_ | ⟨hc, -⟩ | ⟨fill, h⟩)
    · exact absurd rfl hc
    · exact ⟨fill, _, rfl, h⟩
  · rintro ⟨fill, rest, rfl, h⟩
    exact .star fill h

/-- **A pattern without stars stands for itself alone.** -/
theorem expands_iff_eq {pattern : List Char} (h : '*' ∉ pattern) {text : List Char} :
    Expands pattern text ↔ text = pattern := by
  induction pattern generalizing text with
  | nil => exact expands_nil_iff
  | cons c pattern ih =>
    have hc : c ≠ '*' := fun hc => h (hc ▸ List.mem_cons_self)
    have hrest : '*' ∉ pattern := fun hm => h (List.mem_cons_of_mem c hm)
    rw [expands_char_iff hc]
    constructor
    · rintro ⟨rest, rfl, hr⟩
      rw [(ih hrest).1 hr]
    · rintro rfl
      exact ⟨pattern, rfl, (ih hrest).2 rfl⟩

/-! ## (2) A pattern as its pieces between stars -/

/-- **Pieces joined by gaps:** the first piece, any text, the second piece, and so on up to the
last piece, which ends the text. -/
inductive Joins : List (List Char) → List Char → Prop
  | last (piece : List Char) : Joins [piece] piece
  | cons (piece gap : List Char) {pieces : List (List Char)} {text : List Char} :
      Joins pieces text → Joins (piece :: pieces) (piece ++ gap ++ text)

theorem Joins.ne_nil {pieces : List (List Char)} {text : List Char} (h : Joins pieces text) :
    pieces ≠ [] := by
  cases h <;> simp

theorem joins_singleton_iff {piece text : List Char} : Joins [piece] text ↔ text = piece := by
  constructor
  · rintro (_ | ⟨_, _, h⟩)
    · rfl
    · exact absurd rfl h.ne_nil
  · rintro rfl
    exact .last _

theorem joins_cons_iff {piece : List Char} {pieces : List (List Char)} (h : pieces ≠ [])
    {text : List Char} :
    Joins (piece :: pieces) text ↔ ∃ gap rest, text = piece ++ gap ++ rest ∧ Joins pieces rest := by
  constructor
  · rintro (_ | ⟨_, gap, hj⟩)
    · exact absurd rfl h
    · exact ⟨gap, _, rfl, hj⟩
  · rintro ⟨gap, rest, rfl, hj⟩
    exact .cons piece gap hj

/-- A character in front of the first piece is a character in front of the text. -/
theorem joins_cons_char_iff {c : Char} {piece : List Char} {pieces : List (List Char)}
    {text : List Char} :
    Joins ((c :: piece) :: pieces) text ↔ ∃ rest, text = c :: rest ∧ Joins (piece :: pieces) rest := by
  constructor
  · rintro (_ | ⟨_, gap, hj⟩)
    · exact ⟨piece, rfl, .last piece⟩
    · exact ⟨_, rfl, .cons piece gap hj⟩
  · rintro ⟨rest, rfl, (_ | ⟨_, gap, hj⟩)⟩
    · exact .last (c :: piece)
    · exact .cons (c :: piece) gap hj

theorem pieces_ne_nil : (pattern : List Char) → pieces pattern ≠ []
  | [] => by simp [pieces]
  | c :: rest => by
    unfold pieces
    split
    · simp
    · split <;> simp

theorem pieces_cons_star {pattern piece : List Char} {more : List (List Char)}
    (h : pieces pattern = piece :: more) : pieces ('*' :: pattern) = [] :: piece :: more := by
  simp [pieces, h]

theorem pieces_cons_char {c : Char} (hc : c ≠ '*') {pattern piece : List Char}
    {more : List (List Char)} (h : pieces pattern = piece :: more) :
    pieces (c :: pattern) = (c :: piece) :: more := by
  simp [pieces, h, hc]

/-- **A pattern stands for a text exactly when its pieces join into it.** The induction follows
the pattern: a star opens an empty piece, any other character extends the first one. -/
theorem expands_iff_joins (pattern : List Char) {text : List Char} :
    Expands pattern text ↔ Joins (pieces pattern) text := by
  induction pattern generalizing text with
  | nil => rw [expands_nil_iff, show pieces [] = [[]] from rfl, joins_singleton_iff]
  | cons c pattern ih =>
    obtain ⟨piece, more, hp⟩ : ∃ piece more, pieces pattern = piece :: more :=
      List.exists_cons_of_ne_nil (pieces_ne_nil pattern)
    by_cases hc : c = '*'
    · subst hc
      rw [pieces_cons_star hp, expands_star_iff, joins_cons_iff (by simp)]
      simp only [List.nil_append, ← hp, ih]
    · rw [pieces_cons_char hc hp, expands_char_iff hc, joins_cons_char_iff, ← hp]
      simp only [ih]

/-! ## (3) Pieces occurring in order -/

/-- **Pieces occurring in order** in a text, each after the previous one, with any text before,
between and after them. -/
inductive Occur : List (List Char) → List Char → Prop
  | nil (text : List Char) : Occur [] text
  | cons (gap piece : List Char) {pieces : List (List Char)} {text : List Char} :
      Occur pieces text → Occur (piece :: pieces) (gap ++ piece ++ text)

theorem occur_cons_iff {piece : List Char} {pieces : List (List Char)} {text : List Char} :
    Occur (piece :: pieces) text ↔ ∃ gap rest, text = gap ++ piece ++ rest ∧ Occur pieces rest := by
  constructor
  · rintro ⟨⟩
    exact ⟨_, _, rfl, ‹_›⟩
  · rintro ⟨gap, rest, rfl, h⟩
    exact .cons gap piece h

/-- Pieces that occur in a text occur in it with more text in front. -/
theorem Occur.prepend {pieces : List (List Char)} {text : List Char} (h : Occur pieces text)
    (before : List Char) : Occur pieces (before ++ text) := by
  cases h with
  | nil => exact .nil _
  | cons gap piece h =>
    simpa only [List.append_assoc] using Occur.cons (before ++ gap) piece h

/-- **Empty pieces occur everywhere,** so dropping them changes nothing. -/
theorem occur_filter_iff {pieces : List (List Char)} {text : List Char} :
    Occur (pieces.filter (!·.isEmpty)) text ↔ Occur pieces text := by
  induction pieces generalizing text with
  | nil => rfl
  | cons piece pieces ih =>
    by_cases he : piece = []
    · subst he
      simp only [List.filter_cons, List.isEmpty_nil, Bool.not_true, Bool.false_eq_true,
        ↓reduceIte, ih, occur_cons_iff, List.append_nil]
      constructor
      · intro h
        exact ⟨[], text, rfl, h⟩
      · rintro ⟨gap, rest, rfl, h⟩
        exact h.prepend gap
    · have hne : (!piece.isEmpty) = true := by simpa [List.isEmpty_iff] using he
      simp only [List.filter_cons, hne, ↓reduceIte, occur_cons_iff, ih]

/-- **The pieces between a head and a tail:** pieces joined by gaps are the first piece, a middle
in which the inner pieces occur in order, and the last piece. -/
theorem joins_append_iff (head tail : List Char) (middle : List (List Char)) {text : List Char} :
    Joins (head :: (middle ++ [tail])) text ↔
      ∃ mid, text = head ++ mid ++ tail ∧ Occur middle mid := by
  induction middle generalizing head text with
  | nil =>
    simp only [List.nil_append, joins_cons_iff (List.cons_ne_nil _ _), joins_singleton_iff]
    constructor
    · rintro ⟨gap, _, rfl, rfl⟩
      exact ⟨gap, rfl, .nil gap⟩
    · rintro ⟨mid, rfl, -⟩
      exact ⟨mid, tail, rfl, rfl⟩
  | cons piece middle ih =>
    rw [List.cons_append, joins_cons_iff (List.cons_ne_nil _ _)]
    constructor
    · rintro ⟨gap, rest, rfl, hj⟩
      obtain ⟨mid, rfl, hocc⟩ := (ih piece).1 hj
      exact ⟨gap ++ piece ++ mid, by simp, .cons gap piece hocc⟩
    · rintro ⟨_, rfl, hocc⟩
      obtain ⟨gap, mid, rfl, hin⟩ := occur_cons_iff.1 hocc
      exact ⟨gap, piece ++ mid ++ tail, by simp, (ih piece).2 ⟨mid, rfl, hin⟩⟩

/-! ## (4) The greedy search -/

/-- What the search leaves follows an occurrence of the piece. -/
theorem dropThrough_spec {piece : List Char} :
    {text rest : List Char} → dropThrough piece text = some rest → ∃ before, text = before ++ piece ++ rest
  | [], rest, h => by
    unfold dropThrough at h
    split at h
    · rename_i he
      cases Option.some.inj h
      exact ⟨[], by simp_all [List.isEmpty_iff]⟩
    · cases h
  | c :: text, rest, h => by
    unfold dropThrough at h
    split at h
    · rename_i hp
      cases Option.some.inj h
      exact ⟨[], by simpa using (List.prefix_iff_eq_append.1 (List.isPrefixOf_iff_prefix.1 hp)).symm⟩
    · obtain ⟨before, rfl⟩ := dropThrough_spec h
      exact ⟨c :: before, rfl⟩

/-- **The exchange step of the greedy search:** wherever the piece occurs, the search finds an
occurrence at least as far left, and so leaves at least the text after the other one. -/
theorem dropThrough_of_split (piece after : List Char) :
    (before : List Char) → ∃ extra, dropThrough piece (before ++ piece ++ after) = some (extra ++ after)
  | [] => by
    cases h : piece ++ after with
    | nil =>
      obtain ⟨rfl, rfl⟩ := List.append_eq_nil_iff.1 h
      exact ⟨[], rfl⟩
    | cons c rest =>
      refine ⟨[], ?_⟩
      rw [List.nil_append, h, dropThrough, if_pos, ← h, List.drop_left]
      · rfl
      · rw [← h]
        exact List.isPrefixOf_iff_prefix.2 (List.prefix_append piece after)
  | b :: before => by
    rw [List.cons_append, List.cons_append, dropThrough]
    split
    · -- The piece already occurs here, further left than the given occurrence.
      have hle : piece.length ≤ (b :: (before ++ piece)).length := by
        simp only [List.length_cons, List.length_append]
        omega
      refine ⟨(b :: (before ++ piece)).drop piece.length, ?_⟩
      rw [← List.cons_append, List.drop_append_of_le_length hle]
    · exact dropThrough_of_split piece after before

/-- **The greedy search decides whether pieces occur in order:** taking each piece at its leftmost
occurrence never loses a match. -/
theorem inOrder_iff_occur {pieces : List (List Char)} {text : List Char} :
    inOrder pieces text = true ↔ Occur pieces text := by
  induction pieces generalizing text with
  | nil => exact ⟨fun _ => .nil text, fun _ => rfl⟩
  | cons piece pieces ih =>
    constructor
    · intro h
      unfold inOrder at h
      split at h
      · rename_i rest hd
        obtain ⟨before, rfl⟩ := dropThrough_spec hd
        exact .cons before piece (ih.1 h)
      · cases h
    · intro h
      obtain ⟨gap, rest, rfl, hocc⟩ := occur_cons_iff.1 h
      obtain ⟨extra, hd⟩ := dropThrough_of_split piece rest gap
      simp only [inOrder, hd]
      exact ih.2 (hocc.prepend extra)

/-! ## (5) Anchoring the head and the tail -/

/-- **The anchors do not overlap:** a text at least as long as the head and the tail together,
that starts with the head and ends with the tail, is the head, a middle and the tail. -/
theorem anchored_iff {head tail text : List Char} :
    (head.length + tail.length ≤ text.length ∧ head <+: text ∧ tail <:+ text) ↔
      ∃ mid, text = head ++ mid ++ tail := by
  constructor
  · rintro ⟨hlen, ⟨after, rfl⟩, hsuf⟩
    -- The tail is no longer than what follows the head, so it ends that too.
    have htail : tail <:+ after :=
      List.suffix_of_suffix_length_le hsuf (List.suffix_append head after)
        (by simp at hlen; omega)
    obtain ⟨mid, rfl⟩ := htail
    exact ⟨mid, by simp⟩
  · rintro ⟨mid, rfl⟩
    refine ⟨by simp only [List.length_append]; omega, List.prefix_append_of_prefix (List.prefix_append head mid),
      List.suffix_append _ _⟩

/-- The slice the search runs on is the middle between the head and the tail. -/
theorem slice_eq (head mid tail : List Char) :
    ((head ++ mid ++ tail).drop head.length).take
      ((head ++ mid ++ tail).length - head.length - tail.length) = mid := by
  rw [List.append_assoc, List.drop_left, List.length_append, List.length_append]
  rw [show head.length + (mid.length + tail.length) - head.length - tail.length = mid.length by
    omega]
  exact List.take_left

/-! ## (6) The matcher -/

/-- **The matcher accepts exactly the texts the pattern stands for.** -/
theorem accepts_iff_expands (pattern text : List Char) :
    accepts pattern text = true ↔ Expands pattern text := by
  rw [expands_iff_joins]
  unfold accepts
  split
  · rename_i h
    exact absurd h (pieces_ne_nil pattern)
  · rename_i hs
    rw [hs, joins_singleton_iff, beq_iff_eq, eq_comm]
  · rename_i head more hmore hp
    -- Split the pieces after the head into the inner ones and the last.
    have hj := @joins_append_iff head (more.getLast hmore) more.dropLast text
    rw [List.dropLast_concat_getLast hmore] at hj
    rw [hp, hj]
    simp only [List.getLast?_eq_some_getLast hmore, Option.getD_some, Bool.and_eq_true,
      decide_eq_true_eq, List.isPrefixOf_iff_prefix, List.isSuffixOf_iff_suffix,
      inOrder_iff_occur, occur_filter_iff]
    constructor
    · rintro ⟨hanchors, hocc⟩
      obtain ⟨mid, rfl⟩ := anchored_iff.1 (by simpa only [and_assoc] using hanchors)
      rw [slice_eq] at hocc
      exact ⟨mid, rfl, hocc⟩
    · rintro ⟨mid, rfl, hocc⟩
      have hanchors := (@anchored_iff head (more.getLast hmore) _).2 ⟨mid, rfl⟩
      refine ⟨by simpa only [and_assoc] using hanchors, ?_⟩
      rwa [slice_eq]

end Glob

namespace Allowlist

/-- **A lowercased pattern matches a candidate exactly when the candidate is one of the texts the
pattern stands for,** with stars or without. -/
theorem patternMatches_iff (pattern candidate : String) :
    patternMatches pattern candidate = true ↔ Glob.Expands pattern.toList candidate.toList := by
  unfold patternMatches
  split
  · exact Glob.accepts_iff_expands _ _
  · rename_i hstar
    have hno : '*' ∉ pattern.toList := by simpa [String.contains] using hstar
    rw [Glob.expands_iff_eq hno, String.toList_inj, beq_iff_eq, eq_comm]

theorem mem_candidates {sender c : String} :
    c ∈ candidates sender ↔
      c = Text.lowercase sender ∨ (c ∈ (Text.lowercase sender).splitOn "|" ∧ c ≠ "") := by
  simp [candidates]

/-- **An allowlist admits a sender** exactly when it is empty, or when the lowercased sender id or
one of its non-empty `|`-separated parts is one of the texts that some lowercased pattern stands
for. A lowercased pattern without stars stands only for itself, and the matcher accepts exactly
the texts a pattern stands for. -/
theorem admits_iff (patterns : List String) (sender : String) :
    ((Allowlist.mk patterns).admits sender = true ↔
      patterns = [] ∨
        ∃ c, (c = Text.lowercase sender ∨
            (c ∈ (Text.lowercase sender).splitOn "|" ∧ c ≠ "")) ∧
          ∃ p ∈ patterns, Glob.Expands (Text.lowercase p).toList c.toList) ∧
    (∀ p c : String, '*' ∉ (Text.lowercase p).toList →
      (Glob.Expands (Text.lowercase p).toList c.toList ↔ c = Text.lowercase p)) ∧
    (∀ pattern text : List Char, Glob.accepts pattern text = true ↔ Glob.Expands pattern text) := by
  refine ⟨?_, fun p c h => ?_, Glob.accepts_iff_expands⟩
  · simp only [admits, Bool.or_eq_true, List.isEmpty_iff, List.any_eq_true, patternMatches_iff,
      ← mem_candidates]
  · rw [Glob.expands_iff_eq h, String.toList_inj]

end Allowlist

end ChatGateway
