import ChatGateway.Agent.Truncate

/-! # Cutting a tool result at a character boundary

`ToolResult.truncate` keeps a result that fits its byte budget whole, and cuts a longer one at
a character boundary, followed by a note with its full size. The cut is made by
`ToolResult.fitPrefix`, which keeps characters while their UTF-8 bytes fit.

* `ToolResult.utf8ByteSize_fitPrefix_le`, `ToolResult.utf8ByteSize_take_le_fitPrefix`: the kept
  characters fit the budget, and no prefix that fits is longer in bytes.
* `ToolResult.lt_utf8ByteSize_fitPrefix_add`: the character after the kept ones does not fit, so
  at most three bytes of the budget go unused.
* `ToolResult.truncate_at_boundary`: a longer result is cut at the last character boundary within
  the budget, at least `m - 3` bytes in, so a search for it down from `m` stops within three steps
  and the slice up to it is defined.
-/

namespace ChatGateway

namespace Text

/-! ## (1) Bytes of a list of characters -/

@[simp] theorem utf8ByteSize_ofList_cons (c : Char) (l : List Char) :
    (String.ofList (c :: l)).utf8ByteSize = c.utf8Size + (String.ofList l).utf8ByteSize := by
  rw [← List.singleton_append, String.ofList_append, String.utf8ByteSize_append,
    ← String.singleton_eq_ofList, String.utf8ByteSize_singleton]

/-- A split of a text's characters is a split at a character boundary. -/
theorem exists_pos_splits {s : String} {pre post : List Char} (h : s.toList = pre ++ post) :
    ∃ p : s.Pos, p.Splits (String.ofList pre) (String.ofList post) := by
  have hs : s = String.ofList pre ++ String.ofList post := by
    rw [← String.ofList_append, ← h, String.ofList_toList]
  exact ⟨⟨_, String.Pos.Raw.isValid_iff_exists_append.2 ⟨_, _, hs, rfl⟩⟩, hs, rfl⟩

end Text

namespace ToolResult

/-! ## (2) The characters that fit -/

/-- The kept characters are a prefix of the input. -/
theorem fitPrefix_isPrefix : (cs : List Char) → (budget : Nat) → fitPrefix cs budget <+: cs
  | [], _ => List.nil_prefix
  | c :: rest, budget => by
    rw [fitPrefix]
    split
    · exact (List.prefix_cons_inj c).2 (fitPrefix_isPrefix rest _)
    · exact List.nil_prefix

/-- **The kept characters fit the budget.** -/
theorem utf8ByteSize_fitPrefix_le : (cs : List Char) → (budget : Nat) →
    (String.ofList (fitPrefix cs budget)).utf8ByteSize ≤ budget
  | [], _ => by simp [fitPrefix]
  | c :: rest, budget => by
    rw [fitPrefix]
    split
    · have := utf8ByteSize_fitPrefix_le rest (budget - c.utf8Size)
      rw [Text.utf8ByteSize_ofList_cons]
      omega
    · simp

/-- **No prefix that fits the budget is longer** in bytes than the kept characters. -/
theorem utf8ByteSize_take_le_fitPrefix : (cs : List Char) → (budget i : Nat) →
    (String.ofList (cs.take i)).utf8ByteSize ≤ budget →
      (String.ofList (cs.take i)).utf8ByteSize ≤ (String.ofList (fitPrefix cs budget)).utf8ByteSize
  | [], _, i, _ => by simp
  | c :: rest, budget, 0, _ => by simp
  | c :: rest, budget, i + 1, h => by
    rw [List.take_succ_cons, Text.utf8ByteSize_ofList_cons] at h ⊢
    -- The first character fits, since a longer prefix does; the rest is the same question.
    rw [fitPrefix, if_pos (by omega), Text.utf8ByteSize_ofList_cons]
    have := utf8ByteSize_take_le_fitPrefix rest (budget - c.utf8Size) i (by omega)
    omega

/-- **The character after the kept ones does not fit.** -/
theorem lt_utf8ByteSize_fitPrefix_add : {cs : List Char} → {budget : Nat} → {c : Char} →
    {rest : List Char} → cs = fitPrefix cs budget ++ c :: rest →
      budget < (String.ofList (fitPrefix cs budget)).utf8ByteSize + c.utf8Size
  | [], _, _, _, h => by simp [fitPrefix] at h
  | d :: ds, budget, c, rest, h => by
    rw [fitPrefix] at h ⊢
    split at h
    · rename_i hfits
      rw [if_pos hfits, Text.utf8ByteSize_ofList_cons]
      have := lt_utf8ByteSize_fitPrefix_add (List.cons.inj h).2
      omega
    · rename_i hfits
      rw [if_neg hfits]
      obtain ⟨rfl, -⟩ := List.cons.inj h
      simp only [String.ofList_nil, String.utf8ByteSize_empty]
      omega

/-! ## (3) The cut -/

/-- **A tool result is cut at the last character boundary within the budget.** A result of at
most `m` bytes is kept whole. A longer one keeps its text up to a boundary `e` with
`m - 3 ≤ e ≤ m`, and every boundary up to `m` is at or before `e`: a search down from `m` for a
boundary passes only offsets that are none and stops at `e`, without going below zero, and the
slice up to `e` is defined. The note gives the full size in bytes. -/
theorem truncate_at_boundary (s : String) (m : Nat) :
    (s.utf8ByteSize ≤ m → truncate s m = s) ∧
    (m < s.utf8ByteSize → ∃ e : s.Pos, e.offset.byteIdx ≤ m ∧ m ≤ e.offset.byteIdx + 3 ∧
      (∀ i, (String.Pos.Raw.mk i).IsValid s → i ≤ m → i ≤ e.offset.byteIdx) ∧
      truncate s m = (s.sliceTo e).copy ++ "\n\n[truncated, " ++ toString s.utf8ByteSize ++
        " bytes total]") := by
  refine ⟨fun h => by rw [truncate, if_pos h], fun h => ?_⟩
  obtain ⟨rest, hrest⟩ := fitPrefix_isPrefix s.toList m
  obtain ⟨e, he⟩ := Text.exists_pos_splits hrest.symm
  have hsize : s.utf8ByteSize = (String.ofList s.toList).utf8ByteSize := by
    rw [String.ofList_toList]
  have hoff : e.offset.byteIdx = (String.ofList (fitPrefix s.toList m)).utf8ByteSize := by
    rw [he.offset_eq_rawEndPos, String.byteIdx_rawEndPos]
  -- Something is left out, since the whole does not fit; its first character does not fit.
  obtain ⟨c, rest', rfl⟩ : ∃ c rest', rest = c :: rest' := by
    cases rest with
    | nil =>
      rw [List.append_nil] at hrest
      have := utf8ByteSize_fitPrefix_le s.toList m
      rw [hrest, ← hsize] at this
      omega
    | cons c rest' => exact ⟨c, rest', rfl⟩
  have hnext := lt_utf8ByteSize_fitPrefix_add hrest.symm
  refine ⟨e, ?_, ?_, ?_, ?_⟩
  · rw [hoff]
    exact utf8ByteSize_fitPrefix_le s.toList m
  · have := c.utf8Size_le_four
    omega
  · intro i hi him
    obtain ⟨k, hk⟩ := String.Pos.Raw.isValid_iff_exists_take_toList.1 hi
    have hk : i = (String.ofList (s.toList.take k)).utf8ByteSize := hk
    rw [hoff, hk]
    rw [hk] at him
    exact utf8ByteSize_take_le_fitPrefix s.toList m k him
  · rw [truncate, if_neg (by omega), String.copy_sliceTo_eq_iff_exists_splits.2 ⟨_, he⟩]

/-- The cut inside `é`, a two-byte character, falls before it. -/
example : truncate "héllo" 2 = "h\n\n[truncated, 6 bytes total]" := by decide

end ToolResult

end ChatGateway
