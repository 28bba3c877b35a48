import ChatGateway.Config.Interval
import ChatGateway.Proofs.Heartbeat.Ack

/-! # Reading an interval text

What `Interval.parseMillis` accepts, and what it reads. The text is trimmed; the first unit
of `Interval.unitOrder` (`ms`, `h`, `m`, `s`, in that order) that it ends with is cut off, a text
ending with none being a count of milliseconds; what is left, trimmed again, must be a count as
an unsigned 64-bit reader takes it (`Interval.IsCount`); and the interval, count times unit,
must be positive and at most `2^64 - 1` milliseconds. A product above that bound is refused,
never wrapped.

* `Interval.parseCount_eq_some_iff`: the count reader accepts exactly an optional `+` and one or
  more decimal digits whose value fits in 64 bits, and reads that value.
* `Interval.splitUnit_eq_iff`: the unit split is `Interval.UnitSplit`, the first unit in order.
* `Interval.parseMillis_eq_some_iff`: the reading of a text, from the two.
* `Interval.parseMillis_written`: the decimal of any positive count, followed by a unit or by
  none and surrounded by any blanks, reads as the count times the unit, when that fits.
-/

namespace ChatGateway

namespace Interval

/-! ## (1) Counts -/

/-- **One or more decimal digits whose value `n` is at most `2^64 - 1`.** -/
def IsDecimal (digits : List Char) (n : Nat) : Prop :=
  digits ≠ [] ∧ (∀ c ∈ digits, c.isDigit) ∧ n = Nat.ofDigitChars 10 digits 0 ∧ n ≤ maxMillis

/-- **A count as an unsigned 64-bit reader accepts it:** decimal digits, after an optional `+`. -/
def IsCount (t : String) (n : Nat) : Prop :=
  IsDecimal t.toList n ∨ ∃ digits, t.toList = '+' :: digits ∧ IsDecimal digits n

/-- The fold over the digits is their decimal value. -/
theorem foldl_digits (digits : List Char) :
    digits.foldl (fun acc c => acc * 10 + (c.toNat - 48)) 0 = Nat.ofDigitChars 10 digits 0 := by
  rw [Nat.ofDigitChars_eq_foldl]
  congr 1
  funext acc c
  rw [Nat.mul_comm]
  rfl

theorem parseDigits_eq_some_iff (digits : List Char) (n : Nat) :
    parseDigits digits = some n ↔ IsDecimal digits n := by
  have hbad : (digits.isEmpty || !digits.all Char.isDigit) = true ↔
      ¬ (digits ≠ [] ∧ ∀ c ∈ digits, c.isDigit) := by
    simp [List.isEmpty_iff, imp_iff_not_or]
  unfold parseDigits IsDecimal
  rw [foldl_digits]
  split_ifs with h1
  · simp only [false_iff]
    rintro ⟨hne, hall, -, -⟩
    exact hbad.1 h1 ⟨hne, hall⟩
  · obtain ⟨hne, hall⟩ := not_not.1 (mt hbad.2 h1)
    dsimp only
    split_ifs with h2
    · simp only [Option.some.injEq]
      constructor
      · rintro rfl
        exact ⟨hne, hall, rfl, h2⟩
      · rintro ⟨-, -, rfl, -⟩
        rfl
    · simp only [false_iff]
      rintro ⟨-, -, rfl, hle⟩
      exact h2 hle

/-- **The count reader accepts exactly the counts, and reads their value.** -/
theorem parseCount_eq_some_iff (t : String) (n : Nat) : parseCount t = some n ↔ IsCount t n := by
  unfold parseCount IsCount
  split
  · rename_i rest hplus
    -- A sign is not a digit, so the digits are those after it.
    have hsign : ¬ IsDecimal ('+' :: rest) n :=
      fun h => absurd (h.2.1 '+' List.mem_cons_self) (by decide)
    rw [parseDigits_eq_some_iff, hplus]
    simp [hsign]
  · rename_i hplus
    rw [parseDigits_eq_some_iff]
    exact ⟨.inl, fun h => h.elim id fun ⟨digits, hd, _⟩ => absurd hd (hplus digits)⟩

theorem not_isCount_empty (n : Nat) : ¬ IsCount "" n := by
  rintro (⟨hne, -⟩ | ⟨digits, hd, -⟩)
  · exact hne rfl
  · exact List.cons_ne_nil _ _ hd.symm

/-! ## (2) Units -/

/-- **The units an interval may end with, in the order they are tried,** each with its
milliseconds: `ms` comes before `m` and `s`. -/
def unitOrder : List (String × Nat) := [("ms", 1), ("h", 3600000), ("m", 60000), ("s", 1000)]

/-- The first unit of `unitOrder` that a text ends with. -/
def firstUnit (cs : List Char) : Option (String × Nat) :=
  unitOrder.find? fun u => u.1.toList.isSuffixOf cs

/-- **`s` is `count` followed by the first unit it ends with,** worth `perUnit` milliseconds; a
text that ends with no unit is all count, of milliseconds. -/
def UnitSplit (s count : String) (perUnit : Nat) : Prop :=
  (∃ u, firstUnit s.toList = some (u, perUnit) ∧ s.toList = count.toList ++ u.toList) ∨
    (firstUnit s.toList = none ∧ count = s ∧ perUnit = 1)

/-- A text ends with `ms` when its last two characters are `m` and `s`. -/
theorem ms_suffix_iff (cs : List Char) :
    "ms".toList <:+ cs ↔ cs.getLast? = some 's' ∧ cs.dropLast.getLast? = some 'm' := by
  rw [← List.singleton_suffix_iff_getLast?_eq_some, ← List.singleton_suffix_iff_getLast?_eq_some]
  rcases List.eq_nil_or_concat cs with rfl | ⟨init, x, rfl⟩
  · simp
  · rw [List.concat_eq_append, List.dropLast_concat, List.singleton_suffix_append_singleton_iff,
      ← List.reverse_prefix, List.reverse_append]
    have hm : ['m'] <:+ init ↔ ['m'] <+: init.reverse := by
      rw [← List.reverse_prefix, List.reverse_singleton]
    have hms : "ms".toList = ['m', 's'] := rfl
    simp [hm, hms, eq_comm]

/-- A text ends with a one-letter unit when its last character is that letter. -/
theorem letter_suffix_iff (cs : List Char) {u : String} {c : Char} (hu : u.toList = [c]) :
    u.toList <:+ cs ↔ cs.getLast? = some c := by
  rw [hu, List.singleton_suffix_iff_getLast?_eq_some]

theorem isSuffixOf_eq_false {l₁ l₂ : List Char} (h : ¬ l₁ <:+ l₂) : l₁.isSuffixOf l₂ = false :=
  Bool.eq_false_iff.2 (mt List.isSuffixOf_iff_suffix.1 h)

/-- Cutting the last `n` characters, those of a suffix `u`, leaves what comes before `u`. -/
theorem strip_eq_iff {cs u : List Char} (h : u <:+ cs) {n : Nat} (hn : u.length = n)
    {count : String} :
    String.ofList (cs.take (cs.length - n)) = count ↔ cs = count.toList ++ u := by
  obtain ⟨pre, rfl⟩ := h
  subst hn
  rw [List.length_append, Nat.add_sub_cancel, List.take_left', List.append_cancel_right_eq,
    ← String.toList_inj, String.toList_ofList, eq_comm]
  rfl

/-- **One unit tried.** Where the text ends with the unit, the count is what comes before it;
where it does not, the split is the one the later units give. -/
theorem unit_step {s count u : String} {n k k' : Nat} {c : Prop} [Decidable c]
    {rest : String × Nat} {later : List (String × Nat)}
    (hu : u.toList <:+ s.toList ↔ c) (hn : u.toList.length = n)
    (hrest : ¬ c → (rest = (count, k) ↔
      (∃ v, later.find? (fun u => u.1.toList.isSuffixOf s.toList) = some (v, k) ∧
          s.toList = count.toList ++ v.toList) ∨
        (later.find? (fun u => u.1.toList.isSuffixOf s.toList) = none ∧ count = s ∧ k = 1))) :
    (if c then (String.ofList (s.toList.take (s.toList.length - n)), k') else rest) = (count, k) ↔
      (∃ v, ((u, k') :: later).find? (fun u => u.1.toList.isSuffixOf s.toList) = some (v, k) ∧
          s.toList = count.toList ++ v.toList) ∨
        (((u, k') :: later).find? (fun u => u.1.toList.isSuffixOf s.toList) = none ∧ count = s ∧
          k = 1) := by
  by_cases hc : c
  · have hfound : u.toList.isSuffixOf s.toList = true := List.isSuffixOf_iff_suffix.2 (hu.2 hc)
    simp only [if_pos hc, List.find?_cons_of_pos, hfound, Prod.mk.injEq, Option.some.injEq,
      reduceCtorEq, false_and, or_false]
    rw [strip_eq_iff (hu.2 hc) hn]
    constructor
    · rintro ⟨hs, rfl⟩
      exact ⟨u, ⟨rfl, rfl⟩, hs⟩
    · rintro ⟨v, ⟨rfl, rfl⟩, hs⟩
      exact ⟨hs, rfl⟩
  · have hmissed : u.toList.isSuffixOf s.toList = false := isSuffixOf_eq_false (mt hu.1 hc)
    simp only [if_neg hc, List.find?_cons_of_neg, hmissed, Bool.false_eq_true, not_false_eq_true]
    exact hrest hc

/-- **The unit split is the first unit in order.** -/
theorem splitUnit_eq_iff (s count : String) (k : Nat) :
    splitUnit s = (count, k) ↔ UnitSplit s count k := by
  unfold splitUnit UnitSplit firstUnit
  simp only [unitOrder]
  -- The units are tried in the same order on both sides: one step per unit, then none.
  refine unit_step (ms_suffix_iff _) rfl fun _ => ?_
  refine unit_step (letter_suffix_iff _ rfl) rfl fun _ => ?_
  refine unit_step (letter_suffix_iff _ rfl) rfl fun _ => ?_
  refine unit_step (letter_suffix_iff _ rfl) rfl fun _ => ?_
  simp [eq_comm]

/-! ## (3) Intervals -/

/-- **An interval text reads as `d` milliseconds** exactly when, trimmed and split at its first
unit, its count trimmed is a count `n` and `n` units are `d`, positive and within 64 bits. -/
theorem parseMillis_eq_some_iff (text : String) (d : Nat) :
    parseMillis text = some d ↔
      ∃ count perUnit n, UnitSplit (Text.trim text) count perUnit ∧
        IsCount (Text.trim count) n ∧ 0 < n * perUnit ∧ n * perUnit ≤ maxMillis ∧
          d = n * perUnit := by
  obtain ⟨⟨count, k⟩, hsplit⟩ : ∃ split, splitUnit (Text.trim text) = split := ⟨_, rfl⟩
  -- The unit split is unique: it is `splitUnit`'s own.
  have hrhs : (∃ count' perUnit n, UnitSplit (Text.trim text) count' perUnit ∧
      IsCount (Text.trim count') n ∧ 0 < n * perUnit ∧ n * perUnit ≤ maxMillis ∧
        d = n * perUnit) ↔
      ∃ n, IsCount (Text.trim count) n ∧ 0 < n * k ∧ n * k ≤ maxMillis ∧ d = n * k := by
    simp only [← splitUnit_eq_iff, hsplit, Prod.mk.injEq]
    exact ⟨fun ⟨_, _, n, ⟨rfl, rfl⟩, hn⟩ => ⟨n, hn⟩, fun ⟨n, hn⟩ => ⟨_, _, n, ⟨rfl, rfl⟩, hn⟩⟩
  rw [hrhs]
  unfold parseMillis
  dsimp only
  rw [hsplit]
  split_ifs with hempty
  · -- Nothing is left to read a count from.
    have htrim : Text.trim text = "" := String.isEmpty_iff.1 hempty
    have hcount : count = "" := by
      rw [htrim] at hsplit
      exact (congrArg Prod.fst hsplit).symm
    simp only [false_iff, not_exists, hcount]
    intro n hn
    exact not_isCount_empty n hn.1
  · dsimp only
    cases hc : parseCount (Text.trim count) with
    | none =>
      simp only [reduceCtorEq, false_iff, not_exists]
      intro n hn
      rw [(parseCount_eq_some_iff _ _).2 hn.1] at hc
      cases hc
    | some n =>
      -- The count read is the only count the text holds.
      have hread : ∀ n', IsCount (Text.trim count) n' ↔ n' = n := fun n' => by
        rw [← parseCount_eq_some_iff, hc, Option.some.injEq, eq_comm]
      simp only [hread, exists_eq_left]
      split_ifs with hfits
      · simp only [Option.some.injEq, eq_comm]
        exact ⟨fun h => ⟨hfits.2, hfits.1, h⟩, fun h => h.2.2⟩
      · simp only [false_iff]
        exact fun ⟨hpos, hle, _⟩ => hfits ⟨hle, hpos⟩

/-! ## (4) Written intervals -/

/-- Blanks around a text whose first and last characters are not blank are all that trimming
removes. -/
theorem trim_blanks_around {before core after : List Char} (hcore : core ≠ [])
    (hb : ∀ c ∈ before ++ after, Text.isBlank c = true)
    (hhead : ∀ c ∈ core.head?, Text.isBlank c = false)
    (hlast : ∀ c ∈ core.getLast?, Text.isBlank c = false) :
    Text.trim (String.ofList (before ++ core ++ after)) = String.ofList core := by
  have hfront : Text.dropBlanks (before ++ core ++ after) = core ++ after := by
    rw [Text.dropBlanks, List.append_assoc,
      List.dropWhile_append_of_pos fun c hc => hb c (List.mem_append_left _ hc)]
    exact Text.dropBlanks_of_head? (by rwa [List.head?_append_of_ne_nil _ hcore])
  have hback : Text.dropBlanks (core ++ after).reverse = core.reverse := by
    rw [Text.dropBlanks, List.reverse_append, List.dropWhile_append_of_pos
      fun c hc => hb c (List.mem_append_right _ (List.mem_reverse.1 hc))]
    exact Text.dropBlanks_of_head? (by rwa [List.head?_reverse])
  rw [← String.toList_inj, Text.toList_trim, String.toList_ofList, hfront, hback,
    List.reverse_reverse, String.toList_ofList]

theorem isBlank_eq_false_of_isDigit {c : Char} (h : c.isDigit = true) :
    Text.isBlank c = false := by
  have h : 48 ≤ c.toNat ∧ c.toNat ≤ 57 := Char.isDigit_iff_toNat.1 h
  simp only [Text.isBlank, Bool.or_eq_false_iff, Bool.and_eq_false_iff, beq_eq_false_iff_ne,
    decide_eq_false_iff_not, ne_eq]
  omega

/-- The last of one or more digits is none of the unit letters. -/
theorem digits_of_units {ds : List Char} (hds : ds ≠ []) (hdig : ∀ c ∈ ds, c.isDigit) :
    ∃ d, ds.getLast? = some d ∧ d ≠ 'm' ∧ d ≠ 'h' ∧ d ≠ 's' := by
  have hdigit := hdig _ (List.getLast_mem hds)
  refine ⟨ds.getLast hds, List.getLast?_eq_some_getLast hds, ?_, ?_, ?_⟩ <;> intro h <;>
    rw [h] at hdigit <;> simp at hdigit

/-- Digits followed by a unit split at that unit, and digits alone are all count. -/
theorem splitUnit_digits {ds : List Char} (hds : ds ≠ []) (hdig : ∀ c ∈ ds, c.isDigit)
    {u : String} {k : Nat} (hu : (u, k) ∈ ("", 1) :: unitOrder) :
    splitUnit (String.ofList (ds ++ u.toList)) = (String.ofList ds, k) := by
  obtain ⟨d, hd, hm, hh, hs⟩ := digits_of_units hds hdig
  simp only [unitOrder, List.mem_cons, Prod.mk.injEq, List.not_mem_nil, or_false] at hu
  unfold splitUnit
  rcases hu with ⟨rfl, rfl⟩ | ⟨rfl, rfl⟩ | ⟨rfl, rfl⟩ | ⟨rfl, rfl⟩ | ⟨rfl, rfl⟩
  all_goals simp [List.getLast?_append, hd, hm, hh, hs]

/-- **A written interval reads as its count times its unit:** the decimal of a positive count
`n`, followed by a unit worth `k` milliseconds or by none (`k = 1`), with any blanks around it,
reads as `n * k` milliseconds when that fits in 64 bits. -/
theorem parseMillis_written (n k : Nat) (u before after : String)
    (hu : (u, k) ∈ ("", 1) :: unitOrder) (hn : 0 < n) (hmax : n * k ≤ maxMillis)
    (hb : ∀ c ∈ before.toList ++ after.toList, Text.isBlank c = true) :
    parseMillis (before ++ toString n ++ u ++ after) = some (n * k) := by
  have hk : 0 < k := by
    simp only [unitOrder, List.mem_cons, Prod.mk.injEq, List.not_mem_nil, or_false] at hu
    omega
  set ds := Nat.toDigits 10 n
  have hds : ds ≠ [] := Nat.toDigits_ne_nil
  have hdig : ∀ c ∈ ds, c.isDigit := fun c hc =>
    Nat.isDigit_of_mem_toDigits (by decide) (by decide) hc
  -- Neither the digits nor a unit's letters are blank.
  have hunit : ∀ c ∈ u.toList, Text.isBlank c = false := by
    have hm : Text.isBlank 'm' = false := rfl
    have hs : Text.isBlank 's' = false := rfl
    have hh : Text.isBlank 'h' = false := rfl
    simp only [unitOrder, List.mem_cons, Prod.mk.injEq, List.not_mem_nil, or_false] at hu
    rcases hu with ⟨rfl, -⟩ | ⟨rfl, -⟩ | ⟨rfl, -⟩ | ⟨rfl, -⟩ | ⟨rfl, -⟩ <;> simp [hm, hs, hh]
  have hnb : ∀ c ∈ ds ++ u.toList, Text.isBlank c = false := by
    intro c hc
    rcases List.mem_append.1 hc with hc | hc
    · exact isBlank_eq_false_of_isDigit (hdig c hc)
    · exact hunit c hc
  have htext : before ++ toString n ++ u ++ after =
      String.ofList (before.toList ++ (ds ++ u.toList) ++ after.toList) := by
    rw [← String.toList_inj]
    simp [ds]
  have htrim := trim_blanks_around (List.append_ne_nil_of_left_ne_nil hds _) hb
    (fun c hc => hnb c (List.mem_of_mem_head? hc)) (fun c hc => hnb c (List.mem_of_getLast? hc))
  have hcount : Text.trim (String.ofList ds) = String.ofList ds := by
    simpa using @trim_blanks_around [] ds [] hds (by simp)
      (fun c hc => hnb c (List.mem_append_left _ (List.mem_of_mem_head? hc)))
      (fun c hc => hnb c (List.mem_append_left _ (List.mem_of_getLast? hc)))
  rw [htext, parseMillis_eq_some_iff]
  refine ⟨String.ofList ds, k, n, ?_, ?_, Nat.mul_pos hn hk, hmax, rfl⟩
  · rw [htrim, ← splitUnit_eq_iff]
    exact splitUnit_digits hds hdig hu
  · rw [hcount, IsCount, String.toList_ofList]
    refine .inl ⟨hds, hdig, Nat.ofDigitChars_ten_toDigits.symm, ?_⟩
    calc n ≤ n * k := Nat.le_mul_of_pos_right n hk
      _ ≤ maxMillis := hmax

/-- **How an interval text is read:** the reading of every text, and the reading of every
written interval that fits. -/
theorem parseMillis_reading :
    (∀ text d, parseMillis text = some d ↔
      ∃ count perUnit n, UnitSplit (Text.trim text) count perUnit ∧
        IsCount (Text.trim count) n ∧ 0 < n * perUnit ∧ n * perUnit ≤ maxMillis ∧
          d = n * perUnit) ∧
    (∀ n k u before after, (u, k) ∈ ("", 1) :: unitOrder → 0 < n → n * k ≤ maxMillis →
      (∀ c ∈ before.toList ++ after.toList, Text.isBlank c = true) →
        parseMillis (before ++ toString n ++ u ++ after) = some (n * k)) :=
  ⟨parseMillis_eq_some_iff, parseMillis_written⟩

end Interval

end ChatGateway
