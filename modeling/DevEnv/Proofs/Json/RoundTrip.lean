import DevEnv.Proofs.Json.Numeral
import DevEnv.Proofs.Json.Quoted

/-!
Written JSON text reads back. That holds of values in which every number is an integer within the
limit, every text is whole, every key stands once, and nothing is nested too deeply.
-/

namespace DevEnv.Json

set_option autoImplicit false

/-! ### Values that can be restored -/

mutual

/-- Values in which so many lists and objects are nested at most, and which a text can be read back
as. -/
def Restorable (limit : DigitLimit) : Nat → Json → Prop
  | _, .null | _, .bool _ | _, .text _ => True
  | _, .integer n => limit.allows (digitCount n) = true
  | depth + 1, .list items => RestorableItems limit depth items
  | depth + 1, .object fields => (fields.map Prod.fst).Nodup ∧ RestorableFields limit depth fields
  | _, _ => False

def RestorableItems (limit : DigitLimit) (depth : Nat) : List Json → Prop
  | [] => True
  | v :: vs => Restorable limit depth v ∧ RestorableItems limit depth vs

def RestorableFields (limit : DigitLimit) (depth : Nat) : List (String × Json) → Prop
  | [] => True
  | (_, v) :: fs => Restorable limit depth v ∧ RestorableFields limit depth fs

end

/-! ### Space -/

theorem skipSpace_of_not_space {c : Char} (h : isSpace c = false) (cs : List Char) :
    skipSpace (c :: cs) = c :: cs := List.dropWhile_cons_of_neg (by simp [h])

theorem toList_pushn (c : Char) (n : Nat) : ("".pushn c n).toList = List.replicate n c := by
  have hpush : ∀ n, (n.repeat (fun s => s.push c) "").toList = List.replicate n c := by
    intro n
    induction n with
    | zero => rfl
    | succ n ih => rw [Nat.repeat, String.toList_push, ih, List.replicate_succ']
  rw [String.pushn_eq_repeat_push, hpush]

theorem toList_newline (depth : Nat) :
    (newline depth).toList = '\n' :: List.replicate (2 * depth) ' ' := by
  rw [newline, String.toList_append, toList_pushn]
  rfl

theorem skipSpace_newline (depth : Nat) (cs : List Char) :
    skipSpace ((newline depth).toList ++ cs) = skipSpace cs := by
  refine List.dropWhile_append_of_pos ?_
  intro c hc
  rw [toList_newline] at hc
  rcases List.mem_cons.mp hc with rfl | hc
  · rfl
  · rw [List.eq_of_mem_replicate hc]
    rfl

theorem length_newline (depth : Nat) : 0 < (newline depth).toList.length := by
  simp [toList_newline]

theorem endsNumber_newline (depth : Nat) (cs : List Char) :
    EndsNumber ((newline depth).toList ++ cs) := by
  rw [toList_newline, List.cons_append]
  exact endsNumber_cons _ (by decide)

/-! ### One value -/

section Steps
variable {limit : DigitLimit} {fuel depth : Nat} {cs rest : List Char}

theorem value_scalar {c : Char} (h : c ≠ '"' ∧ c ≠ '[' ∧ c ≠ '\x7b') :
    value limit (fuel + 1) depth (c :: cs) = scalar limit (c :: cs) := by
  obtain ⟨hquote, hlist, hobject⟩ := h
  rw [value]
  · rintro rest heq
    exact hquote (List.cons.inj heq).1
  · rintro rest heq
    exact hlist (List.cons.inj heq).1
  · rintro rest heq
    exact hobject (List.cons.inj heq).1

theorem value_string {ns : List Nat} (h : string cs = .ok (ns, rest)) :
    value limit (fuel + 1) depth ('"' :: cs) = .ok (ofPoints ns, rest) := by
  rw [value, h]
  rfl

theorem value_text (e : Escaping) (s : String) :
    value limit (fuel + 1) depth ((quote e s).toList ++ rest) = .ok (.text s, rest) := by
  rw [toList_quote, List.cons_append, List.append_assoc, List.singleton_append,
    value_string (string_escaped e s rest), ofPoints_toNat]

theorem value_emptyList : value limit (fuel + 1) (depth + 1) ('[' :: ']' :: rest) =
    .ok (.list [], rest) := by
  rw [value, skipSpace_of_not_space (by decide)]
  rfl

theorem value_emptyObject : value limit (fuel + 1) (depth + 1) ('\x7b' :: '\x7d' :: rest) =
    .ok (.object [], rest) := by
  rw [value, skipSpace_of_not_space (by decide)]
  rfl

theorem value_list {vs : List Json} (hhead : ∀ c ∈ (skipSpace cs).head?, c ≠ ']')
    (h : items limit fuel depth (skipSpace cs) = .ok (vs, rest)) :
    value limit (fuel + 1) (depth + 1) ('[' :: cs) = .ok (.list vs, rest) := by
  rw [value]
  split
  · rename_i heq
    rw [heq] at hhead
    exact absurd rfl (hhead _ rfl)
  · rw [h]
    rfl

theorem value_object {fs : List (String × Json)} (hhead : ∀ c ∈ (skipSpace cs).head?, c ≠ '\x7d')
    (h : members limit fuel depth [] (skipSpace cs) = .ok (fs, rest)) :
    value limit (fuel + 1) (depth + 1) ('\x7b' :: cs) = .ok (.object fs, rest) := by
  rw [value]
  split
  · rename_i heq
    rw [heq] at hhead
    exact absurd rfl (hhead _ rfl)
  · rw [h]
    rfl

theorem items_last {v : Json} {after : List Char}
    (hv : value limit fuel depth cs = .ok (v, after)) (hend : skipSpace after = ']' :: rest) :
    items limit (fuel + 1) depth cs = .ok ([v], rest) := by
  rw [items, hv]
  simp only [Bind.bind, Except.bind, hend]

theorem items_more {v : Json} {vs : List Json} {after next : List Char}
    (hv : value limit fuel depth cs = .ok (v, after)) (hcomma : skipSpace after = ',' :: next)
    (hvs : items limit fuel depth (skipSpace next) = .ok (vs, rest)) :
    items limit (fuel + 1) depth cs = .ok (v :: vs, rest) := by
  rw [items, hv]
  simp only [Bind.bind, Except.bind, hcomma, hvs]

theorem members_last {e : Escaping} {found : List (String × Json)} {key : String} {v : Json}
    {next after : List Char} (hcolon : skipSpace cs = ':' :: next)
    (hv : value limit fuel depth (skipSpace next) = .ok (v, after))
    (hend : skipSpace after = '\x7d' :: rest) :
    members limit (fuel + 1) depth found ((quote e key).toList ++ cs) =
      .ok (Json.bind key v found, rest) := by
  rw [toList_quote, List.cons_append, List.append_assoc, List.singleton_append, members,
    string_escaped]
  simp only [Bind.bind, Except.bind, hcolon, hv, hend, bindPoints_toNat]

theorem members_more {e : Escaping} {found : List (String × Json)} {key : String} {v : Json}
    {next after more : List Char} (hcolon : skipSpace cs = ':' :: next)
    (hv : value limit fuel depth (skipSpace next) = .ok (v, after))
    (hcomma : skipSpace after = ',' :: more) :
    members limit (fuel + 1) depth found ((quote e key).toList ++ cs) =
      members limit fuel depth (Json.bind key v found) (skipSpace more) := by
  rw [toList_quote, List.cons_append, List.append_assoc, List.singleton_append, members,
    string_escaped]
  simp only [Bind.bind, Except.bind, hcolon, hv, hcomma, bindPoints_toNat]

end Steps

theorem bind_of_not_mem {key : String} {v : Json} {found : List (String × Json)}
    (h : key ∉ found.map Prod.fst) : bind key v found = found ++ [(key, v)] := by
  induction found with
  | nil => rfl
  | cons f fs ih =>
    obtain ⟨k, w⟩ := f
    simp only [List.map_cons, List.mem_cons, not_or] at h
    rw [bind, if_neg (Ne.symm h.1), ih h.2, List.cons_append]

/-! ### Written values -/

/-- The first character of a written value, which is neither space nor a bracket that closes. -/
def BeginsValue (cs : List Char) : Prop :=
  ∃ c rest, cs = c :: rest ∧ isSpace c = false ∧ c ≠ ']' ∧ c ≠ '\x7d'

theorem BeginsValue.append {cs : List Char} (h : BeginsValue cs) (rest : List Char) :
    BeginsValue (cs ++ rest) := by
  obtain ⟨c, more, rfl, hc⟩ := h
  exact ⟨c, more ++ rest, rfl, hc⟩

theorem BeginsValue.skipSpace {cs : List Char} (h : BeginsValue cs) : skipSpace cs = cs := by
  obtain ⟨c, rest, rfl, hspace, -⟩ := h
  exact skipSpace_of_not_space hspace rest

theorem beginsValue_quote (e : Escaping) (s : String) : BeginsValue (quote e s).toList :=
  ⟨'"', _, toList_quote e s, by decide⟩

/-- An integer begins with a sign or a digit, and so with nothing that other values begin with. -/
theorem exists_cons_toString (n : Int) :
    ∃ c cs, (toString n).toList = c :: cs ∧ ∀ d : Char, d.isDigit = false → d ≠ '-' → c ≠ d := by
  obtain ⟨c, cs, hdigits⟩ : ∃ c cs, Nat.toDigits 10 n.natAbs = c :: cs :=
    List.exists_cons_of_ne_nil Nat.toDigits_ne_nil
  have hc : c.isDigit = true := Text.isDigit_toDigits n.natAbs c (by simp [hdigits])
  rw [Text.toList_toString, hdigits]
  split
  · exact ⟨'-', c :: cs, rfl, fun d _ hminus => Ne.symm hminus⟩
  · refine ⟨c, cs, rfl, ?_⟩
    rintro d hd - rfl
    rw [hd] at hc
    cases hc

theorem beginsValue_toString (n : Int) : BeginsValue (toString n).toList := by
  obtain ⟨c, cs, htext, hne⟩ := exists_cons_toString n
  refine ⟨c, cs, htext, ?_, hne ']' rfl (by decide), hne '\x7d' rfl (by decide)⟩
  simp [isSpace, hne ' ' rfl (by decide), hne '\t' rfl (by decide), hne '\n' rfl (by decide),
    hne '\r' rfl (by decide)]

section Parts
variable (e : Escaping) (column : Nat)

theorem toList_indented_null : (indented e column .null).toList = ['n', 'u', 'l', 'l'] := by
  simp [indented, scalarText]

theorem toList_indented_false :
    (indented e column (.bool false)).toList = ['f', 'a', 'l', 's', 'e'] := by
  simp [indented, scalarText]

theorem toList_indented_true :
    (indented e column (.bool true)).toList = ['t', 'r', 'u', 'e'] := by
  simp [indented, scalarText]

theorem toList_indented_nil : (indented e column (.list [])).toList = ['[', ']'] := by
  simp [indented, scalarText]

theorem toList_indented_empty : (indented e column (.object [])).toList = ['\x7b', '\x7d'] := by
  simp [indented, scalarText]

theorem toList_indented_list (v : Json) (vs : List Json) :
    (indented e column (.list (v :: vs))).toList =
      '[' :: ((indentedItems e (column + 1) (v :: vs)).toList ++
        ((newline column).toList ++ [']'])) := by
  rw [indented, String.toList_append, String.toList_append, String.toList_append,
    List.append_assoc, List.append_assoc]
  rfl

theorem toList_indented_object (f : String × Json) (fs : List (String × Json)) :
    (indented e column (.object (f :: fs))).toList =
      '\x7b' :: ((indentedFields e (column + 1) (f :: fs)).toList ++
        ((newline column).toList ++ ['\x7d'])) := by
  rw [indented, String.toList_append, String.toList_append, String.toList_append,
    List.append_assoc, List.append_assoc]
  rfl

theorem toList_indentedItems_cons (v : Json) (vs : List Json) :
    (indentedItems e column (v :: vs)).toList =
      (newline column).toList ++ ((indented e column v).toList ++
        if vs = [] then [] else ',' :: (indentedItems e column vs).toList) := by
  cases vs with
  | nil =>
    have htext : indentedItems e column [v] = newline column ++ indented e column v := by
      simp [indentedItems]
    rw [htext, String.toList_append, if_pos rfl, List.append_nil]
  | cons w ws =>
    rw [indentedItems, String.toList_append, String.toList_append, String.toList_append,
      if_neg (List.cons_ne_nil w ws), List.append_assoc, List.append_assoc]
    · rfl
    · exact List.cons_ne_nil w ws

theorem toList_indentedFields_cons (key : String) (v : Json) (fs : List (String × Json)) :
    (indentedFields e column ((key, v) :: fs)).toList =
      (newline column).toList ++ ((quote e key).toList ++
        (':' :: ' ' :: ((indented e column v).toList ++
          if fs = [] then [] else ',' :: (indentedFields e column fs).toList))) := by
  cases fs with
  | nil =>
    have htext : indentedFields e column [(key, v)] =
        newline column ++ quote e key ++ ": " ++ indented e column v := by
      simp [indentedFields]
    rw [htext, String.toList_append, String.toList_append, String.toList_append,
      if_pos rfl, List.append_nil, List.append_assoc, List.append_assoc]
    rfl
  | cons g gs =>
    rw [indentedFields, String.toList_append, String.toList_append, String.toList_append,
      String.toList_append, String.toList_append, if_neg (List.cons_ne_nil g gs),
      List.append_assoc, List.append_assoc, List.append_assoc, List.append_assoc]
    · rfl
    · exact List.cons_ne_nil g gs

end Parts

theorem beginsValue_indented {limit : DigitLimit} {depth : Nat} (e : Escaping) (column : Nat)
    {v : Json} (h : Restorable limit depth v) : BeginsValue (indented e column v).toList := by
  cases v with
  | null => exact ⟨'n', _, toList_indented_null e column, by decide⟩
  | bool b =>
    cases b with
    | false => exact ⟨'f', _, toList_indented_false e column, by decide⟩
    | true => exact ⟨'t', _, toList_indented_true e column, by decide⟩
  | integer n => exact beginsValue_toString n
  | real x => cases depth <;> cases h
  | text s => exact beginsValue_quote e s
  | brokenText ns => cases depth <;> cases h
  | list vs =>
    cases vs with
    | nil => exact ⟨'[', _, toList_indented_nil e column, by decide⟩
    | cons v vs => exact ⟨'[', _, toList_indented_list e column v vs, by decide⟩
  | object fs =>
    cases fs with
    | nil => exact ⟨'\x7b', _, toList_indented_empty e column, by decide⟩
    | cons f fs => exact ⟨'\x7b', _, toList_indented_object e column f fs, by decide⟩

theorem BeginsValue.head_ne {cs : List Char} (h : BeginsValue cs) :
    ∀ c ∈ cs.head?, c ≠ ']' ∧ c ≠ '\x7d' := by
  obtain ⟨d, rest, rfl, -, hd⟩ := h
  intro c hc
  rw [List.head?_cons, Option.mem_some_iff] at hc
  rwa [← hc]

theorem beginsValue_items (e : Escaping) (column : Nat) {v : Json} (vs : List Json)
    (rest : List Char) (h : BeginsValue (indented e column v).toList) :
    BeginsValue (skipSpace ((indentedItems e column (v :: vs)).toList ++ rest)) := by
  rw [toList_indentedItems_cons, List.append_assoc, skipSpace_newline, List.append_assoc,
    (h.append _).skipSpace]
  exact h.append _

theorem beginsValue_fields (e : Escaping) (column : Nat) (f : String × Json)
    (fs : List (String × Json)) (rest : List Char) :
    BeginsValue (skipSpace ((indentedFields e column (f :: fs)).toList ++ rest)) := by
  obtain ⟨key, v⟩ := f
  have hquote := beginsValue_quote e key
  rw [toList_indentedFields_cons, List.append_assoc, skipSpace_newline, List.append_assoc,
    (hquote.append _).skipSpace]
  exact hquote.append _

/-! ### Reading back -/

section Reading
variable (limit : DigitLimit) (e : Escaping)

/-- Wherever the value is written, it is read back, and as much fuel as there are characters is
enough. -/
def Reads (v : Json) : Prop :=
  ∀ (fuel depth column : Nat) (rest : List Char),
    Restorable limit depth v → EndsNumber rest → (indented e column v).toList.length < fuel →
      value limit fuel depth ((indented e column v).toList ++ rest) = .ok (v, rest)

def ReadsItems (vs : List Json) : Prop :=
  ∀ (fuel depth column outer : Nat) (rest : List Char),
    RestorableItems limit depth vs → (indentedItems e column vs).toList.length < fuel →
      items limit fuel depth (skipSpace ((indentedItems e column vs).toList ++
        ((newline outer).toList ++ ']' :: rest))) = .ok (vs, rest)

def ReadsFields (fs : List (String × Json)) : Prop :=
  ∀ (found : List (String × Json)) (fuel depth column outer : Nat) (rest : List Char),
    ((found ++ fs).map Prod.fst).Nodup → RestorableFields limit depth fs →
      (indentedFields e column fs).toList.length < fuel →
      members limit fuel depth found (skipSpace ((indentedFields e column fs).toList ++
        ((newline outer).toList ++ '\x7d' :: rest))) = .ok (found ++ fs, rest)

/-- Wherever the value is written where so many lists and objects may be nested, it is read back. -/
structure ReadsAt (depth : Nat) (v : Json) : Prop where
  begins : ∀ column, BeginsValue (indented e column v).toList
  back : ∀ (fuel column : Nat) (rest : List Char), EndsNumber rest →
    (indented e column v).toList.length < fuel →
      value limit fuel depth ((indented e column v).toList ++ rest) = .ok (v, rest)

def ReadsFieldsAt (depth : Nat) (fs : List (String × Json)) : Prop :=
  ∀ (found : List (String × Json)) (fuel column outer : Nat) (rest : List Char),
    ((found ++ fs).map Prod.fst).Nodup → (indentedFields e column fs).toList.length < fuel →
      members limit fuel depth found (skipSpace ((indentedFields e column fs).toList ++
        ((newline outer).toList ++ '\x7d' :: rest))) = .ok (found ++ fs, rest)

variable {limit e} {depth : Nat}

theorem Reads.at {v : Json} (hv : Reads limit e v) (h : Restorable limit depth v) :
    ReadsAt limit e depth v :=
  ⟨fun column => beginsValue_indented e column h, fun fuel column rest => hv fuel depth column rest h⟩

theorem ReadsFields.at {fs : List (String × Json)} (hfs : ReadsFields limit e fs)
    (h : RestorableFields limit depth fs) : ReadsFieldsAt limit e depth fs :=
  fun found fuel column outer rest hnodup =>
    hfs found fuel depth column outer rest hnodup h

end Reading

section Constructors
variable {limit : DigitLimit} {e : Escaping}

theorem reads_word {v : Json} {c : Char} {cs : List Char}
    (htext : ∀ column, (indented e column v).toList = c :: cs)
    (hc : c ≠ '"' ∧ c ≠ '[' ∧ c ≠ '\x7b')
    (hword : ∀ rest, word? (c :: (cs ++ rest)) = some (v, rest)) : Reads limit e v := by
  intro fuel depth column rest _ _ hfuel
  obtain ⟨fuel, rfl⟩ := Nat.exists_eq_succ_of_ne_zero (Nat.ne_zero_of_lt hfuel)
  rw [htext, List.cons_append, value_scalar hc]
  exact scalar_of_word (hword rest)

theorem value_toString {fuel depth : Nat} {rest : List Char} (hrest : EndsNumber rest) (n : Int) :
    value limit (fuel + 1) depth ((toString n).toList ++ rest) =
      if limit.allows (digitCount n) then .ok (.integer n, rest) else .error .integerTooLong := by
  obtain ⟨c, cs, htext, hne⟩ := exists_cons_toString n
  rw [← scalar_integer hrest, htext, List.cons_append]
  exact value_scalar ⟨hne '"' rfl (by decide), hne '[' rfl (by decide),
    hne '\x7b' rfl (by decide)⟩

theorem reads_integer (n : Int) : Reads limit e (.integer n) := by
  intro fuel depth column rest h hrest hfuel
  obtain ⟨fuel, rfl⟩ := Nat.exists_eq_succ_of_ne_zero (Nat.ne_zero_of_lt hfuel)
  have hallows : limit.allows (digitCount n) = true := by simpa [Restorable] using h
  exact (value_toString hrest n).trans (if_pos hallows)

theorem reads_text (s : String) : Reads limit e (.text s) := by
  intro fuel depth column rest _ _ hfuel
  obtain ⟨fuel, rfl⟩ := Nat.exists_eq_succ_of_ne_zero (Nat.ne_zero_of_lt hfuel)
  exact value_text e s

theorem reads_list {vs : List Json} (hvs : vs ≠ [] → ReadsItems limit e vs) :
    Reads limit e (.list vs) := by
  intro fuel depth column rest h _ hfuel
  obtain ⟨fuel, rfl⟩ := Nat.exists_eq_succ_of_ne_zero (Nat.ne_zero_of_lt hfuel)
  cases depth with
  | zero => cases h
  | succ depth =>
    have hitems : RestorableItems limit depth vs := by simpa [Restorable] using h
    cases vs with
    | nil =>
      rw [toList_indented_nil]
      exact value_emptyList
    | cons v vs =>
      -- The bracket costs one unit of fuel, and what is left is still more than the items are long.
      rw [toList_indented_list] at hfuel ⊢
      simp only [List.length_cons, List.length_append] at hfuel
      have hread := hvs (List.cons_ne_nil v vs) fuel depth (column + 1) column rest hitems
        (by omega)
      have hbegins := beginsValue_items e (column + 1) vs
        ((newline column).toList ++ ']' :: rest) (beginsValue_indented e (column + 1) hitems.1)
      simp only [List.cons_append, List.append_assoc, List.nil_append]
      exact value_list (fun c hc => (hbegins.head_ne c hc).1) hread

theorem readsAt_object {depth : Nat} {fs : List (String × Json)}
    (hnodup : (fs.map Prod.fst).Nodup) (hfs : fs ≠ [] → ReadsFieldsAt limit e depth fs) :
    ReadsAt limit e (depth + 1) (.object fs) := by
  cases fs with
  | nil =>
    refine ⟨fun column => ⟨'\x7b', _, toList_indented_empty e column, by decide⟩, ?_⟩
    intro fuel column rest _ hfuel
    obtain ⟨fuel, rfl⟩ := Nat.exists_eq_succ_of_ne_zero (Nat.ne_zero_of_lt hfuel)
    rw [toList_indented_empty]
    exact value_emptyObject
  | cons f fs =>
    refine ⟨fun column => ⟨'\x7b', _, toList_indented_object e column f fs, by decide⟩, ?_⟩
    intro fuel column rest _ hfuel
    obtain ⟨fuel, rfl⟩ := Nat.exists_eq_succ_of_ne_zero (Nat.ne_zero_of_lt hfuel)
    rw [toList_indented_object] at hfuel ⊢
    simp only [List.length_cons, List.length_append] at hfuel
    have hread := hfs (List.cons_ne_nil f fs) [] fuel (column + 1) column rest hnodup (by omega)
    have hbegins := beginsValue_fields e (column + 1) f fs
      ((newline column).toList ++ '\x7d' :: rest)
    simp only [List.cons_append, List.append_assoc, List.nil_append] at hread ⊢
    exact value_object (fun c hc => (hbegins.head_ne c hc).2) hread

theorem reads_object {fs : List (String × Json)} (hfs : fs ≠ [] → ReadsFields limit e fs) :
    Reads limit e (.object fs) := by
  intro fuel depth column rest h hrest hfuel
  cases depth with
  | zero => cases h
  | succ depth =>
    obtain ⟨hnodup, hfields⟩ :
        (fs.map Prod.fst).Nodup ∧ RestorableFields limit depth fs := by
      simpa [Restorable] using h
    exact (readsAt_object hnodup fun hne => (hfs hne).at hfields).back fuel column rest hrest hfuel

theorem readsItems_cons {v : Json} {vs : List Json} (hv : Reads limit e v)
    (hvs : vs ≠ [] → ReadsItems limit e vs) : ReadsItems limit e (v :: vs) := by
  intro fuel depth column outer rest h hfuel
  obtain ⟨fuel, rfl⟩ := Nat.exists_eq_succ_of_ne_zero (Nat.ne_zero_of_lt hfuel)
  obtain ⟨hfirst, hothers⟩ : Restorable limit depth v ∧ RestorableItems limit depth vs := by
    simpa [RestorableItems] using h
  have hbegins := beginsValue_indented e column hfirst
  have hspace := length_newline column
  rw [toList_indentedItems_cons] at hfuel ⊢
  simp only [List.length_append] at hfuel
  rw [List.append_assoc, skipSpace_newline, List.append_assoc, (hbegins.append _).skipSpace]
  have hvalue : ∀ after, EndsNumber after →
      value limit fuel depth ((indented e column v).toList ++ after) = .ok (v, after) :=
    fun after hafter => hv fuel depth column after hfirst hafter (by omega)
  cases vs with
  | nil =>
    have hend : skipSpace ((newline outer).toList ++ ']' :: rest) = ']' :: rest := by
      rw [skipSpace_newline]
      exact skipSpace_of_not_space rfl rest
    rw [if_pos rfl, List.nil_append]
    exact items_last (hvalue _ (endsNumber_newline outer _)) hend
  | cons w ws =>
    rw [if_neg (List.cons_ne_nil w ws)] at hfuel ⊢
    rw [List.length_cons] at hfuel
    rw [List.cons_append]
    exact items_more (hvalue _ (endsNumber_cons _ (by decide))) (skipSpace_of_not_space rfl _)
      (hvs (List.cons_ne_nil w ws) fuel depth column outer rest hothers (by omega))

theorem readsFieldsAt_cons {depth : Nat} {key : String} {v : Json} {fs : List (String × Json)}
    (hv : ReadsAt limit e depth v) (hfs : fs ≠ [] → ReadsFieldsAt limit e depth fs) :
    ReadsFieldsAt limit e depth ((key, v) :: fs) := by
  intro found fuel column outer rest hnodup hfuel
  obtain ⟨fuel, rfl⟩ := Nat.exists_eq_succ_of_ne_zero (Nat.ne_zero_of_lt hfuel)
  have hspace := length_newline column
  -- No key stands twice, so the field goes behind those found before and replaces none.
  have hkey : key ∉ found.map Prod.fst := by
    rw [List.map_append, List.map_cons] at hnodup
    exact fun hmem => (List.nodup_append.mp hnodup).2.2 key hmem key List.mem_cons_self rfl
  have hgrown : found ++ (key, v) :: fs = (found ++ [(key, v)]) ++ fs := by simp
  have hcolon : ∀ cs, skipSpace (':' :: ' ' :: cs) = ':' :: ' ' :: cs :=
    fun _ => skipSpace_of_not_space rfl _
  have hblank : ∀ cs, skipSpace (' ' :: cs) = skipSpace cs := fun _ => rfl
  rw [toList_indentedFields_cons] at hfuel ⊢
  simp only [List.length_append, List.length_cons] at hfuel
  simp only [List.append_assoc, List.cons_append]
  rw [skipSpace_newline, ((beginsValue_quote e key).append _).skipSpace]
  have hvalue : ∀ after, EndsNumber after → value limit fuel depth
      (skipSpace (' ' :: ((indented e column v).toList ++ after))) = .ok (v, after) := by
    intro after hafter
    rw [hblank, ((hv.begins column).append _).skipSpace]
    exact hv.back fuel column after hafter (by omega)
  cases fs with
  | nil =>
    have hend : skipSpace ((newline outer).toList ++ '\x7d' :: rest) = '\x7d' :: rest := by
      rw [skipSpace_newline]
      exact skipSpace_of_not_space rfl rest
    rw [if_pos rfl, List.nil_append,
      members_last (hcolon _) (hvalue _ (endsNumber_newline outer _)) hend, bind_of_not_mem hkey]
  | cons f fs =>
    rw [if_neg (List.cons_ne_nil f fs)] at hfuel ⊢
    rw [List.length_cons] at hfuel
    rw [List.cons_append, members_more (hcolon _) (hvalue _ (endsNumber_cons _ (by decide)))
      (skipSpace_of_not_space rfl _), bind_of_not_mem hkey, hgrown]
    exact hfs (List.cons_ne_nil f fs) _ fuel column outer rest (hgrown ▸ hnodup) (by omega)

theorem readsFields_cons {key : String} {v : Json} {fs : List (String × Json)}
    (hv : Reads limit e v) (hfs : fs ≠ [] → ReadsFields limit e fs) :
    ReadsFields limit e ((key, v) :: fs) := by
  intro found fuel depth column outer rest hnodup h hfuel
  obtain ⟨hfirst, hothers⟩ : Restorable limit depth v ∧ RestorableFields limit depth fs := by
    simpa [RestorableFields] using h
  have hread : ReadsFieldsAt limit e depth ((key, v) :: fs) :=
    readsFieldsAt_cons (hv.at hfirst) fun hne => (hfs hne).at hothers
  exact hread found fuel column outer rest hnodup hfuel

end Constructors

variable (limit : DigitLimit) (e : Escaping)

mutual

theorem reads : ∀ v, Reads limit e v
  | .null => reads_word (toList_indented_null e) (by decide) fun _ => rfl
  | .bool false => reads_word (toList_indented_false e) (by decide) fun _ => rfl
  | .bool true => reads_word (toList_indented_true e) (by decide) fun _ => rfl
  | .integer n => reads_integer n
  | .real _ => fun _ depth _ _ h _ _ => by cases depth <;> cases h
  | .text s => reads_text s
  | .brokenText _ => fun _ depth _ _ h _ _ => by cases depth <;> cases h
  | .list vs => reads_list (readsItems vs)
  | .object fs => reads_object (readsFields fs)

theorem readsItems : ∀ vs, vs ≠ [] → ReadsItems limit e vs
  | [] => fun h => absurd rfl h
  | v :: vs => fun _ => readsItems_cons (reads v) (readsItems vs)

theorem readsFields : ∀ fs, fs ≠ [] → ReadsFields limit e fs
  | [] => fun h => absurd rfl h
  | (_, v) :: fs => fun _ => readsFields_cons (reads v) (readsFields fs)

end

theorem readsAt_of_restorable {limit : DigitLimit} {e : Escaping} {depth : Nat} {v : Json}
    (h : Restorable limit depth v) : ReadsAt limit e depth v :=
  (reads limit e v).at h

/-- A text is read as the value that is written in it, with nothing but space around. -/
theorem parseWithin_of_readsAt {limit : DigitLimit} {e : Escaping} {v : Json} {s : String}
    {rest : List Char} (h : ReadsAt limit e maxDepth v)
    (hs : skipSpace s.toList = (pretty e v).toList ++ rest) (hrest : EndsNumber rest)
    (hspace : skipSpace rest = []) : parseWithin limit s = .ok v := by
  have hlong : (indented e 0 v).toList.length < ((indented e 0 v).toList ++ rest).length + 1 := by
    rw [List.length_append]
    omega
  rw [pretty] at hs
  simp only [parseWithin, hs, h.back _ 0 rest hrest hlong, Bind.bind, Except.bind, hspace]
  rfl

theorem ReadsAt.parse {limit : DigitLimit} {e : Escaping} {v : Json}
    (h : ReadsAt limit e maxDepth v) : parseWithin limit (pretty e v) = .ok v := by
  refine parseWithin_of_readsAt h ?_ endsNumber_nil rfl
  rw [List.append_nil]
  exact (h.begins 0).skipSpace

/-- A value that can be restored is read back from the text that it is written as. -/
theorem parseWithin_pretty {limit : DigitLimit} (e : Escaping) {v : Json}
    (h : Restorable limit maxDepth v) : parseWithin limit (pretty e v) = .ok v :=
  (readsAt_of_restorable h).parse

/-! ### Numbers over the limit -/

section OverLimit
variable {limit : DigitLimit} {e : Escaping} {fuel depth : Nat} {cs : List Char}

end OverLimit

/-! ### Values that can be restored have no halves -/

variable (limit : DigitLimit)

mutual

theorem withStandIns_of_restorable (d : Text.StandIns) :
    ∀ depth v, Restorable limit depth v → v.withStandIns d = v
  | _, .null, _ | _, .bool _, _ | _, .integer _, _ | _, .text _, _ => rfl
  | 0, .real _, h | _ + 1, .real _, h | 0, .brokenText _, h | _ + 1, .brokenText _, h => by cases h
  | 0, .list _, h | 0, .object _, h => by cases h
  | depth + 1, .list vs, h =>
    congrArg Json.list (itemsWithStandIns_of_restorable d depth vs h)
  | depth + 1, .object fs, h =>
    congrArg Json.object (fieldsWithStandIns_of_restorable d depth fs h.2)

theorem itemsWithStandIns_of_restorable (d : Text.StandIns) :
    ∀ depth vs, RestorableItems limit depth vs → itemsWithStandIns d vs = vs
  | _, [], _ => rfl
  | depth, v :: vs, ⟨hv, hvs⟩ => by
    rw [itemsWithStandIns, withStandIns_of_restorable d depth v hv,
      itemsWithStandIns_of_restorable d depth vs hvs]

theorem fieldsWithStandIns_of_restorable (d : Text.StandIns) :
    ∀ depth fs, RestorableFields limit depth fs → fieldsWithStandIns d fs = fs
  | _, [], _ => rfl
  | depth, (_, v) :: fs, ⟨hv, hfs⟩ => by
    rw [fieldsWithStandIns, withStandIns_of_restorable d depth v hv,
      fieldsWithStandIns_of_restorable d depth fs hfs]

end

theorem isSurrogate_of_mem_chars {cs : List Char} {n : Nat} (h : n ∈ cs.map Char.toNat) :
    Text.isSurrogate n = false := by
  obtain ⟨c, -, rfl⟩ := List.mem_map.mp h
  exact Text.isSurrogate_toNat c

mutual

theorem isSurrogate_of_mem_points {n : Nat} :
    ∀ depth v, Restorable limit depth v → n ∈ v.points → Text.isSurrogate n = false
  | _, .null, _ | _, .bool _, _ | _, .integer _, _ => fun h => by cases h
  | _, .text _, _ => isSurrogate_of_mem_chars
  | 0, .real _, h | _ + 1, .real _, h | 0, .brokenText _, h | _ + 1, .brokenText _, h => by cases h
  | 0, .list _, h | 0, .object _, h => by cases h
  | depth + 1, .list vs, h => isSurrogate_of_mem_itemPoints depth vs h
  | depth + 1, .object fs, h => isSurrogate_of_mem_fieldPoints depth fs h.2

theorem isSurrogate_of_mem_itemPoints {n : Nat} :
    ∀ depth vs, RestorableItems limit depth vs → n ∈ itemPoints vs → Text.isSurrogate n = false
  | _, [], _ => fun h => by cases h
  | depth, v :: vs, ⟨hv, hvs⟩ => fun h =>
    (List.mem_append.mp h).elim (isSurrogate_of_mem_points depth v hv)
      (isSurrogate_of_mem_itemPoints depth vs hvs)

theorem isSurrogate_of_mem_fieldPoints {n : Nat} :
    ∀ depth fs, RestorableFields limit depth fs → n ∈ fieldPoints fs → Text.isSurrogate n = false
  | _, [], _ => fun h => by cases h
  | depth, (_, v) :: fs, ⟨hv, hfs⟩ => fun h =>
    (List.mem_append.mp h).elim (isSurrogate_of_mem_points depth v hv)
      (isSurrogate_of_mem_fieldPoints depth fs hfs)

end

end DevEnv.Json
