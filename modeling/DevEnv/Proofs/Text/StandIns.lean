import DevEnv.Text.Surrogate
import Mathlib.Data.List.Chain
import Mathlib.Data.List.Dedup
import Mathlib.Data.List.Nodup

/-!
Stand-ins for halves of surrogate pairs. No two halves have the same stand-in, and no stand-in is a
character of the texts that it has to keep clear of. So a text with stand-ins in it has the code points
that it was made of.
-/

namespace DevEnv.Text

set_option autoImplicit false

theorem firstPrivate_eq : StandIns.firstPrivate = 0xF0000 := rfl

theorem toNat_ofNat_of_valid {n : Nat} (h : n.isValidChar) : (Char.ofNat n).toNat = n := by
  rw [Char.ofNat, dif_pos h]
  rfl

theorem toNat_ofNat_of_not_valid {n : Nat} (h : ¬ n.isValidChar) : (Char.ofNat n).toNat = 0 := by
  rw [Char.ofNat, dif_neg h]
  rfl

theorem isValidChar_of_private {n : Nat} (low : StandIns.firstPrivate ≤ n) (high : n < 0x110000) :
    n.isValidChar := by
  rw [firstPrivate_eq] at low
  exact .inr ⟨by omega, high⟩

theorem fst_unique_of_mem_zip {α β : Type} {as : List α} {bs : List β} {a a' : α} {b : β}
    (distinct : bs.Nodup) (h : (a, b) ∈ as.zip bs) (h' : (a', b) ∈ as.zip bs) : a = a' := by
  induction as generalizing bs with
  | nil => cases h
  | cons x as ih =>
    cases bs with
    | nil => cases h
    | cons y bs =>
      obtain ⟨fresh, others⟩ := List.nodup_cons.mp distinct
      rw [List.zip_cons_cons, List.mem_cons, Prod.mk.injEq] at h h'
      rcases h with ⟨rfl, rfl⟩ | h
      · rcases h' with ⟨rfl, -⟩ | h'
        · rfl
        · exact absurd (List.of_mem_zip h').2 fresh
      · rcases h' with ⟨-, rfl⟩ | h'
        · exact absurd (List.of_mem_zip h).2 fresh
        · exact ih others h h'

/-! ### Halves that make no pair -/

/-- No low half stands behind a high one. -/
def Unpaired (ns : List Nat) : Prop :=
  ns.IsChain fun n m => ¬ (isHighSurrogate n = true ∧ isLowSurrogate m = true)

instance (ns : List Nat) : Decidable (Unpaired ns) := inferInstanceAs (Decidable (List.IsChain _ ns))

/-- Code points of a text, in which halves can be left. -/
structure Proper (ns : List Nat) : Prop where
  unpaired : Unpaired ns
  valid : ∀ n ∈ ns, isSurrogate n = true ∨ n.isValidChar

theorem not_highSurrogate_of_le {n : Nat} (h : 0x10000 ≤ n) : ¬ isHighSurrogate n = true := by
  simp only [isHighSurrogate, Bool.and_eq_true, decide_eq_true_eq]
  omega

theorem not_lowSurrogate_of_le {n : Nat} (h : 0x10000 ≤ n) : ¬ isLowSurrogate n = true := by
  simp only [isLowSurrogate, Bool.and_eq_true, decide_eq_true_eq]
  omega

theorem le_pairPoint (high low : Nat) : 0x10000 ≤ pairPoint high low := by
  unfold pairPoint
  omega

theorem head?_joinPairs {m k : Nat} {ns : List Nat} (h : (joinPairs (m :: ns)).head? = some k) :
    k = m ∨ 0x10000 ≤ k := by
  cases ns with
  | nil => exact .inl (Option.some.inj h).symm
  | cons n ns =>
    rw [joinPairs] at h
    split at h
    · rw [← Option.some.inj h]
      exact .inr (le_pairPoint m n)
    · exact .inl (Option.some.inj h).symm

theorem unpaired_joinPairs (ns : List Nat) : Unpaired (joinPairs ns) := by
  fun_induction joinPairs ns with
  | case1 n m rest pair ih =>
    refine List.isChain_cons.mpr ⟨?_, ih⟩
    rintro k - ⟨high, -⟩
    exact not_highSurrogate_of_le (le_pairPoint n m) high
  | case2 n m rest apart ih =>
    refine List.isChain_cons.mpr ⟨?_, ih⟩
    rintro k first ⟨high, low⟩
    -- What follows begins with the next half itself or with a pair, which is no half.
    rcases head?_joinPairs first with rfl | above
    · exact apart (by rw [high, low, Bool.and_self])
    · exact not_lowSurrogate_of_le above low
  | case3 ns short =>
    cases ns with
    | nil => exact .nil
    | cons n ns =>
      cases ns with
      | nil => exact .singleton n
      | cons m rest => exact (short n m rest rfl).elim

theorem Unpaired.map {f : Nat → Nat} {ns : List Nat} (h : Unpaired ns)
    (keeps : ∀ n ∈ ns, f n = n ∨ f n = 0) : Unpaired (ns.map f) := by
  have low : ¬ isLowSurrogate 0 = true := by decide
  have high : ¬ isHighSurrogate 0 = true := by decide
  induction ns with
  | nil => exact .nil
  | cons n ns ih =>
    obtain ⟨first, others⟩ := List.isChain_cons.mp h
    rw [List.map_cons]
    refine List.isChain_cons.mpr ⟨?_, ih others fun m hm => keeps m (.tail n hm)⟩
    rintro k member ⟨leads, follows⟩
    rw [List.head?_map] at member
    obtain ⟨m, hm, rfl⟩ := Option.map_eq_some_iff.mp member
    rcases keeps n List.mem_cons_self with same | lost
    · rcases keeps m (.tail n (List.mem_of_mem_head? hm)) with same' | lost
      · rw [same] at leads
        rw [same'] at follows
        exact first m hm ⟨leads, follows⟩
      · exact low (lost ▸ follows)
    · exact high (lost ▸ leads)

theorem not_highSurrogate_toNat (c : Char) : ¬ isHighSurrogate c.toNat = true := by
  have valid : c.toNat < 0xD800 ∨ 0xDFFF < c.toNat ∧ c.toNat < 0x110000 := c.valid
  simp only [isHighSurrogate, Bool.and_eq_true, decide_eq_true_eq]
  omega

theorem proper_chars (cs : List Char) : Proper (cs.map Char.toNat) := by
  constructor
  · induction cs with
    | nil => exact .nil
    | cons c cs ih =>
      refine List.isChain_cons.mpr ⟨?_, ih⟩
      rintro m - ⟨high, -⟩
      exact not_highSurrogate_toNat c high
  · intro n hn
    obtain ⟨c, -, rfl⟩ := List.mem_map.mp hn
    exact .inr c.valid

namespace StandIns

/-! ### Free characters -/

theorem mem_free {count n : Nat} {points : List Nat} (h : n ∈ free count points) :
    firstPrivate ≤ n ∧ n < 0x110000 ∧ n ∉ points := by
  simp only [free, List.mem_filter, List.mem_map, Bool.and_eq_true, Bool.not_eq_true',
    decide_eq_true_eq] at h
  obtain ⟨⟨i, -, rfl⟩, open_, valid⟩ := h
  refine ⟨Nat.le_add_right _ _, valid, ?_⟩
  intro taken
  have listed : firstPrivate + i ∈ (points.filter (firstPrivate ≤ ·)).eraseDups := by
    rw [List.mem_eraseDups, List.mem_filter]
    exact ⟨taken, decide_eq_true (Nat.le_add_right _ _)⟩
  rw [List.contains_iff_mem.mpr listed] at open_
  cases open_

theorem nodup_free (count : Nat) (points : List Nat) : (free count points).Nodup := by
  unfold free
  apply List.Nodup.filter
  apply List.Nodup.map_on
  · intro i _ j _ same
    omega
  · exact List.nodup_range

theorem toNat_ofNat_of_mem_free {count n : Nat} {points : List Nat} (h : n ∈ free count points) :
    (Char.ofNat n).toNat = n := by
  obtain ⟨low, high, -⟩ := mem_free h
  exact toNat_ofNat_of_valid (isValidChar_of_private low high)

theorem nodup_characters (count : Nat) (points : List Nat) :
    ((free count points).map Char.ofNat).Nodup := by
  apply List.Nodup.map_on
  · intro m hm n hn same
    rw [← toNat_ofNat_of_mem_free hm, ← toNat_ofNat_of_mem_free hn, same]
  · exact nodup_free count points

/-! ### Stand-ins for all halves of some texts -/

/-- Private characters for halves, a different one for each, and none of them among the points. -/
structure Clear (points : List Nat) (d : StandIns) : Prop where
  half : ∀ n c, (n, c) ∈ d.pairs → isSurrogate n = true
  high : ∀ n c, (n, c) ∈ d.pairs → firstPrivate ≤ c.toNat
  fresh : ∀ n c, (n, c) ∈ d.pairs → c.toNat ∉ points
  single : ∀ m n c, (m, c) ∈ d.pairs → (n, c) ∈ d.pairs → m = n

theorem clear_avoiding (points : List Nat) : (avoiding points).Clear points := by
  have character : ∀ n c, (n, c) ∈ (avoiding points).pairs → ∃ m,
      m ∈ free (points.filter isSurrogate).eraseDups.length points ∧ c.toNat = m := by
    intro n c member
    obtain ⟨m, hm, rfl⟩ := List.mem_map.mp (List.of_mem_zip member).2
    exact ⟨m, hm, toNat_ofNat_of_mem_free hm⟩
  refine ⟨?_, ?_, ?_, ?_⟩
  · intro n c member
    have listed := (List.of_mem_zip member).1
    rw [List.mem_eraseDups, List.mem_filter] at listed
    exact listed.2
  · intro n c member
    obtain ⟨m, hm, same⟩ := character n c member
    rw [same]
    exact (mem_free hm).1
  · intro n c member
    obtain ⟨m, hm, same⟩ := character n c member
    rw [same]
    exact (mem_free hm).2.2
  · intro m n c first second
    exact fst_unique_of_mem_zip (nodup_characters _ points) first second

section Clear
variable {points ns : List Nat} {d : StandIns} {c : Char} {n : Nat} {s : String}

theorem mem_of_half? (h : d.half? c = some n) : (n, c) ∈ d.pairs := by
  obtain ⟨⟨m, e⟩, found, rfl⟩ := Option.map_eq_some_iff.mp h
  have same := List.find?_some found
  obtain rfl := beq_iff_eq.mp same
  exact List.mem_of_find?_eq_some found

theorem points_text (d : StandIns) (ns : List Nat) :
    d.points (d.text ns) = ns.map fun n => (d.half? (d.char n)).getD (d.char n).toNat := by
  simp [StandIns.points, StandIns.text]

theorem half?_eq_none (h : ∀ n, (n, c) ∉ d.pairs) : d.half? c = .none := by
  cases found : d.half? c with
  | none => rfl
  | some n => exact absurd (mem_of_half? found) (h n)

namespace Clear
variable (clear : d.Clear points)
include clear

theorem half?_of_mem (h : (n, c) ∈ d.pairs) : d.half? c = some n := by
  cases found : d.half? c with
  | none =>
    have missing := List.find?_eq_none.mp (Option.map_eq_none_iff.mp found) (n, c) h
    exact absurd (beq_self_eq_true c) missing
  | some m => rw [clear.single m n c (mem_of_half? found) h]

theorem half?_of_mem_points (h : c.toNat ∈ points) : d.half? c = .none :=
  half?_eq_none fun n member => clear.fresh n c member h

theorem half?_of_lt (h : c.toNat < firstPrivate) : d.half? c = .none :=
  half?_eq_none fun n member => absurd (clear.high n c member) (Nat.not_le.mpr h)

/-- A code point is read off its character, unless it is a half for which no character was free. -/
theorem point_char (h : n ∈ points) :
    (d.half? (d.char n)).getD (d.char n).toNat = n ∨
      (d.half? (d.char n)).getD (d.char n).toNat = 0 := by
  unfold StandIns.char
  cases found : d.pairs.lookup n with
  | some c =>
    obtain ⟨before, after, whole, -⟩ := List.lookup_eq_some_iff.mp found
    have member : (n, c) ∈ d.pairs := by
      rw [whole]
      exact List.mem_append_right before List.mem_cons_self
    left
    rw [Option.getD_some, clear.half?_of_mem member, Option.getD_some]
  | none =>
    rw [Option.getD_none]
    by_cases valid : n.isValidChar
    · have back := toNat_ofNat_of_valid valid
      have own : d.half? (Char.ofNat n) = .none := clear.half?_of_mem_points (back.symm ▸ h)
      left
      rw [own, Option.getD_none, back]
    · have back := toNat_ofNat_of_not_valid valid
      have own : d.half? (Char.ofNat n) = .none := clear.half?_of_lt (by rw [back]; decide)
      right
      rw [own, Option.getD_none, back]

theorem proper_points (s : String)
    (unpaired : Unpaired (d.points s)) : Proper (d.points s) := by
  refine ⟨unpaired, ?_⟩
  intro n hn
  obtain ⟨c, -, rfl⟩ := List.mem_map.mp hn
  cases found : d.half? c with
  | none => exact .inr c.valid
  | some m => exact .inl (clear.half m c (mem_of_half? found))

/-- Stand-ins make no pairs of halves that made none. -/
theorem proper_points_text (h : ∀ n ∈ ns, n ∈ points) (unpaired : Unpaired ns) :
    Proper (d.points (d.text ns)) := by
  refine clear.proper_points _ ?_
  rw [points_text]
  exact unpaired.map fun n hn => clear.point_char (h n hn)

end Clear

theorem points_of_whole (h : ∀ c ∈ s.toList, d.half? c = .none) :
    d.points s = s.toList.map Char.toNat := by
  unfold StandIns.points
  apply List.map_congr_left
  intro c hc
  rw [h c hc]
  rfl

end Clear

end StandIns

end DevEnv.Text
