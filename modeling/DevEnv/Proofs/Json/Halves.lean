import DevEnv.Proofs.Json.RoundTrip
import DevEnv.Proofs.Text.StandIns

/-!
Broken texts in JSON. A text in which halves are left alone is read back as it was written, as no half
in it has its other half behind it; and whatever is read has such texts only. Stand-ins that are put
in and taken out again leave the text that was written.
-/

namespace DevEnv.Json

set_option autoImplicit false

/-! ### Reading code points back -/

/-- What a code point is read as before halves are joined. -/
def pointUnits (n : Nat) : List Nat :=
  if Text.isSurrogate n then [n] else units .nonAscii (Char.ofNat n)

theorem stringPoints_escapedPoint (n : Nat) (cs : List Char) :
    stringPoints (escapedPoint n ++ cs) =
      (stringPoints cs).map fun r => (pointUnits n ++ r.1, r.2) := by
  unfold escapedPoint pointUnits
  split
  · rename_i half
    refine stringPoints_unitEscape ?_ cs
    simp only [Text.isSurrogate, Bool.and_eq_true, decide_eq_true_eq] at half
    omega
  · exact stringPoints_escapedChar .nonAscii _ cs

/-- The escape of a code point begins with no low half, unless that is the code point. -/
theorem exists_pointUnits {n : Nat} (valid : Text.isSurrogate n = true ∨ n.isValidChar) :
    ∃ m ms, pointUnits n = m :: ms ∧ (Text.isLowSurrogate m = true → m = n) := by
  unfold pointUnits
  split
  · exact ⟨n, [], rfl, fun _ => rfl⟩
  · rename_i whole
    have char := valid.resolve_left whole
    unfold units
    rw [Text.toNat_ofNat_of_valid char]
    split
    · exact ⟨n, [], rfl, fun _ => rfl⟩
    · refine ⟨_, _, rfl, ?_⟩
      intro low
      have bound : n < 0x110000 := char.elim (fun below => by omega) fun above => above.2
      simp only [Text.isLowSurrogate, Bool.and_eq_true, decide_eq_true_eq] at low
      omega

theorem joinPairs_pointUnits {ns : List Nat} (h : Text.Proper ns) :
    Text.joinPairs (ns.flatMap pointUnits) = ns := by
  obtain ⟨unpaired, valid⟩ := h
  induction ns with
  | nil => rfl
  | cons n ns ih =>
    obtain ⟨first, others⟩ := List.isChain_cons.mp unpaired
    have rest := ih others fun m hm => valid m (.tail n hm)
    rw [List.flatMap_cons]
    by_cases half : Text.isSurrogate n = true
    · rw [pointUnits, if_pos half, List.singleton_append, joinPairs_cons_of_apart, rest]
      intro m member
      rintro ⟨high, low⟩
      -- What follows the half begins as the escape of the next code point does.
      cases ns with
      | nil => cases member
      | cons k ns =>
        obtain ⟨l, ls, same, only⟩ := exists_pointUnits (valid k (.tail n List.mem_cons_self))
        rw [List.flatMap_cons, same] at member
        obtain rfl := Option.some.inj member
        exact first k rfl ⟨high, only low ▸ low⟩
    · have whole := (valid n List.mem_cons_self).resolve_left half
      rw [pointUnits, if_neg half, joinPairs_units, Text.toNat_ofNat_of_valid whole, rest]

theorem string_escapedPoints {ns : List Nat} (h : Text.Proper ns) (rest : List Char) :
    string (ns.flatMap escapedPoint ++ '"' :: rest) = .ok (ns, rest) := by
  simp only [string, stringPoints_flatMap stringPoints_escapedPoint, joinPairs_pointUnits h]

theorem toList_quotePoints (ns : List Nat) :
    (quotePoints ns).toList = '"' :: (ns.flatMap escapedPoint ++ ['"']) := by
  simp [quotePoints]

/-- A text is written by its code points in the same way, whether it is broken or not. -/
theorem indented_ofPoints (column : Nat) (ns : List Nat) :
    indented .nonAscii column (ofPoints ns) = quotePoints ns := by
  unfold ofPoints textOfPoints?
  split
  · simp [indented, scalarText]
  · rename_i whole
    have each : ∀ n ∈ ns, escapedPoint n = escapedChar .nonAscii (Char.ofNat n) := by
      intro n hn
      have apart : ¬ Text.isSurrogate n = true :=
        fun half => whole (List.any_eq_true.mpr ⟨n, hn, half⟩)
      rw [escapedPoint, if_neg apart]
    have written : ns.flatMap escapedPoint =
        (ns.map Char.ofNat).flatMap (escapedChar .nonAscii) := by
      rw [List.flatMap_map]
      exact List.flatMap_congr each
    simp [indented, scalarText, quote, quotePoints, written]

section ReadsAt
variable {limit : DigitLimit} {depth : Nat}

theorem readsAt_ofPoints {ns : List Nat} (h : Text.Proper ns) :
    ReadsAt limit .nonAscii depth (ofPoints ns) := by
  refine ⟨fun column => ?_, ?_⟩
  · rw [indented_ofPoints]
    exact ⟨'"', _, toList_quotePoints ns, by decide⟩
  · intro fuel column rest _ hfuel
    obtain ⟨fuel, rfl⟩ := Nat.exists_eq_succ_of_ne_zero (Nat.ne_zero_of_lt hfuel)
    rw [indented_ofPoints, toList_quotePoints, List.cons_append, List.append_assoc,
      List.singleton_append]
    exact value_string (string_escapedPoints h rest)

theorem readsFieldsAt {e : Escaping} {fs : List (String × Json)}
    (each : ∀ f ∈ fs, ReadsAt limit e depth f.2) : fs ≠ [] → ReadsFieldsAt limit e depth fs := by
  induction fs with
  | nil => exact fun h => absurd rfl h
  | cons f fs ih =>
    intro _
    exact readsFieldsAt_cons (each f List.mem_cons_self) (ih fun g hg => each g (.tail f hg))

end ReadsAt

/-- Texts that are read back are the same if they are written in the same way. -/
theorem ofPoints_inj {ns ms : List Nat} (hns : Text.Proper ns) (hms : Text.Proper ms) :
    ofPoints ns = ofPoints ms ↔ ns = ms := by
  constructor
  · intro same
    have written : quotePoints ns = quotePoints ms := by
      rw [← indented_ofPoints 0, same, indented_ofPoints]
    have whole := congrArg String.toList written
    rw [toList_quotePoints, toList_quotePoints] at whole
    have read := string_escapedPoints hns []
    rw [(List.cons.inj whole).2, string_escapedPoints hms []] at read
    exact (Prod.mk.inj (Except.ok.inj read)).1.symm
  · exact congrArg ofPoints

/-! ### Texts that are read -/

/-- The second value is the first, or that of a field in it. -/
inductive Reaches : Json → Json → Prop
  | refl (v : Json) : Reaches v v
  | field {fs : List (String × Json)} {key : String} {v w : Json} :
      (key, v) ∈ fs → Reaches v w → Reaches (.object fs) w

theorem Reaches.trans {u v w : Json} (h : Reaches u v) (h' : Reaches v w) : Reaches u w := by
  induction h with
  | refl v => exact h'
  | field member _ ih => exact .field member (ih h')

theorem mem_fieldPoints {fs : List (String × Json)} {key : String} {v : Json} {n : Nat}
    (h : (key, v) ∈ fs) (hn : n ∈ v.points) : n ∈ fieldPoints fs := by
  induction fs with
  | nil => cases h
  | cons f fs ih =>
    rw [fieldPoints, List.mem_append]
    rcases List.mem_cons.mp h with rfl | h
    · exact .inl hn
    · exact .inr (ih h)

theorem Reaches.mem_points {v w : Json} (h : Reaches v w) {n : Nat} (hn : n ∈ w.points) :
    n ∈ v.points := by
  induction h with
  | refl v => exact hn
  | field member _ ih => exact mem_fieldPoints member (ih hn)

/-- All broken texts in the fields have halves without their other half only. -/
def Mended (v : Json) : Prop := ∀ ns, Reaches v (.brokenText ns) → Text.Unpaired ns

theorem mended_of_scalar {v : Json} (broken : ∀ ns, v ≠ .brokenText ns) (plain : ∀ fs, v ≠ .object fs) :
    Mended v := by
  intro ns h
  cases h with
  | refl => exact absurd rfl (broken ns)
  | field => exact absurd rfl (plain _)

theorem mended_ofPoints {ns : List Nat} (h : Text.Unpaired ns) : Mended (ofPoints ns) := by
  intro ms reaches
  unfold ofPoints at reaches
  cases found : textOfPoints? ns with
  | some s =>
    rw [found] at reaches
    cases reaches
  | none =>
    rw [found] at reaches
    cases reaches with
    | refl => exact h

theorem mended_object {fs : List (String × Json)} (h : ∀ f ∈ fs, Mended f.2) :
    Mended (.object fs) := by
  intro ns reaches
  cases reaches with
  | field member reaches => exact h _ member ns reaches

/-- What is read, if anything is, has the property. -/
def Yields {α : Type} (P : α → Prop) : Parsed (α × List Char) → Prop
  | .ok (a, _) => P a
  | .error _ => True

section Yields
variable {α β : Type} {P : α → Prop} {Q : β → Prop} {x : Parsed (α × List Char)}

theorem Yields.map {f : α → β} (h : Yields P x) (keeps : ∀ a, P a → Q (f a)) :
    Yields Q (x.map fun (a, rest) => (f a, rest)) := by
  cases x with
  | ok p => exact keeps p.1 h
  | error fault => trivial

theorem Yields.bind {f : α × List Char → Parsed (β × List Char)} (h : Yields P x)
    (keeps : ∀ a rest, P a → Yields Q (f (a, rest))) : Yields Q (x >>= f) := by
  cases x with
  | ok p => exact keeps p.1 p.2 h
  | error fault => trivial

end Yields

theorem yields_string (cs : List Char) : Yields Text.Unpaired (string cs) := by
  unfold string
  split
  · exact Text.unpaired_joinPairs _
  · trivial

theorem yields_unsigned (limit : DigitLimit) (negative : Bool) (cs : List Char) :
    Yields Mended (unsigned limit negative cs) := by
  unfold unsigned
  dsimp only
  split
  · trivial
  · split
    · split
      · exact mended_of_scalar nofun nofun
      · trivial
    · exact mended_of_scalar nofun nofun

theorem yields_scalar (limit : DigitLimit) (cs : List Char) :
    Yields Mended (scalar limit cs) := by
  have known : ∀ p ∈ words, Mended p.2 := by
    simp only [words, List.forall_mem_cons]
    exact ⟨mended_of_scalar nofun nofun, mended_of_scalar nofun nofun,
      mended_of_scalar nofun nofun, mended_of_scalar nofun nofun, mended_of_scalar nofun nofun,
      mended_of_scalar nofun nofun, nofun⟩
  unfold scalar
  split
  · rename_i r found
    obtain ⟨p, member, same⟩ := List.exists_of_findSome?_eq_some found
    obtain ⟨rest, -, rfl⟩ := Option.map_eq_some_iff.mp same
    exact known p member
  · split <;> exact yields_unsigned limit _ _

theorem mem_bind {key : String} {v : Json} {found : List (String × Json)} {f : String × Json}
    (h : f ∈ bind key v found) : f.2 = v ∨ f ∈ found := by
  induction found with
  | nil =>
    rw [List.mem_singleton.mp h]
    exact .inl rfl
  | cons g gs ih =>
    obtain ⟨k, w⟩ := g
    unfold bind at h
    split at h
    · rcases List.mem_cons.mp h with rfl | h
      · exact .inl rfl
      · exact .inr (.tail _ h)
    · rcases List.mem_cons.mp h with rfl | h
      · exact .inr List.mem_cons_self
      · exact (ih h).imp_right (.tail _)

theorem mended_bindPoints {key : List Nat} {v : Json} {found : List (String × Json)}
    (hv : Mended v) (hfound : ∀ f ∈ found, Mended f.2) :
    ∀ f ∈ bindPoints key v found, Mended f.2 := by
  intro f hf
  unfold bindPoints at hf
  split at hf
  · rcases mem_bind hf with same | old
    · exact same ▸ hv
    · exact hfound f old
  · exact hfound f hf

variable (limit : DigitLimit)

mutual

theorem yields_value : ∀ fuel depth cs, Yields Mended (value limit fuel depth cs)
  | 0, _, _ => trivial
  | fuel + 1, depth, cs => by
    rw [value.eq_def]
    dsimp only
    split
    · exact (yields_string _).map fun _ => mended_ofPoints
    · split
      · trivial
      · split
        · exact mended_of_scalar nofun nofun
        · generalize items limit fuel _ _ = listed
          cases listed with
          | ok p => exact mended_of_scalar nofun nofun
          | error fault => trivial
    · split
      · trivial
      · split
        · exact mended_object nofun
        · exact (yields_members fuel _ [] _ nofun).map fun _ => mended_object
    · exact yields_scalar limit cs

theorem yields_members : ∀ fuel depth found cs, (∀ f ∈ found, Mended f.2) →
    Yields (fun fs => ∀ f ∈ fs, Mended f.2) (members limit fuel depth found cs)
  | 0, _, _, _, _ => trivial
  | fuel + 1, depth, found, cs, hfound => by
    rw [members.eq_def]
    dsimp only
    split
    · refine (yields_string _).bind fun key rest _ => ?_
      dsimp only
      split
      · refine (yields_value fuel depth _).bind fun v rest hv => ?_
        dsimp only
        split
        · exact mended_bindPoints hv hfound
        · exact yields_members fuel depth _ _ (mended_bindPoints hv hfound)
        · trivial
      · trivial
    · trivial

end

/-- No half that could be joined to the next one is left in a value that is read. -/
theorem mended_of_parseWithin {limit : DigitLimit} {s : String} {v : Json}
    (h : parseWithin limit s = .ok v) : Mended v := by
  have hvalue := yields_value limit ((skipSpace s.toList).length + 1) maxDepth (skipSpace s.toList)
  simp only [parseWithin, Bind.bind, Except.bind] at h
  split at h
  · cases h
  · rename_i p hread
    rw [hread] at hvalue
    split at h
    · exact Except.ok.inj h ▸ hvalue
    · cases h

/-! ### Stand-ins in the place of halves -/

section StandIns
variable {d : Text.StandIns} {points : List Nat}

theorem withHalves_text (clear : d.Clear points) (s : String) :
    (text s).withHalves d = ofPoints (d.points s) := by
  unfold withHalves
  split
  · rename_i broken
    obtain ⟨c, hc, found⟩ := List.any_eq_true.mp broken
    obtain ⟨n, half⟩ := Option.isSome_iff_exists.mp found
    have listed : n ∈ d.points s := List.mem_map.mpr ⟨c, hc, by rw [half]; rfl⟩
    have surrogate := clear.half n c (Text.StandIns.mem_of_half? half)
    have whole : (d.points s).any Text.isSurrogate = true :=
      List.any_eq_true.mpr ⟨n, listed, surrogate⟩
    rw [ofPoints, textOfPoints?, if_pos whole]
    rfl
  · rename_i whole
    rw [Text.StandIns.points_of_whole, ofPoints_toNat]
    intro c hc
    rw [← Option.not_isSome_iff_eq_none]
    exact fun found => whole (List.any_eq_true.mpr ⟨c, hc, found⟩)

theorem lookup_fieldsWithStandIns (key : String) (fs : List (String × Json)) :
    (fieldsWithStandIns d fs).lookup key = (fs.lookup key).map (withStandIns d) := by
  induction fs with
  | nil => rfl
  | cons f fs ih =>
    obtain ⟨k, v⟩ := f
    rw [fieldsWithStandIns, List.lookup_cons, List.lookup_cons]
    split
    · rfl
    · exact ih

/-- A field of a value with stand-ins comes from one of the value without. -/
theorem exists_field {v w : Json} {fs : List (String × Json)} {key : String}
    (h : v.withStandIns d = .object fs) (found : fs.lookup key = some w) :
    ∃ u, Reaches v u ∧ u.withStandIns d = w := by
  cases v with
  | object gs =>
    obtain rfl := Json.object.inj h
    rw [lookup_fieldsWithStandIns] at found
    obtain ⟨u, stands, rfl⟩ := Option.map_eq_some_iff.mp found
    obtain ⟨before, after, rfl, -⟩ := List.lookup_eq_some_iff.mp stands
    exact ⟨u, .field (List.mem_append_right before List.mem_cons_self) (.refl u), rfl⟩
  | _ => cases h

/-- A text that was read has code points that are read back. -/
theorem proper_points {v u : Json} {s : String} (clear : d.Clear points)
    (listed : ∀ n ∈ v.points, n ∈ points) (mended : Mended v) (reaches : Reaches v u)
    (h : u.withStandIns d = .text s) : Text.Proper (d.points s) := by
  cases u with
  | text t =>
    obtain rfl := Json.text.inj h
    have whole : ∀ c ∈ t.toList, d.half? c = none := by
      intro c hc
      have own : c.toNat ∈ (text t).points := List.mem_map_of_mem hc
      exact clear.half?_of_mem_points (listed _ (reaches.mem_points own))
    rw [Text.StandIns.points_of_whole whole]
    exact Text.proper_chars _
  | brokenText ns =>
    obtain rfl := Json.text.inj h
    exact clear.proper_points_text (fun n hn => listed n (reaches.mem_points hn)) (mended ns reaches)
  | _ => cases h

end StandIns

end DevEnv.Json
