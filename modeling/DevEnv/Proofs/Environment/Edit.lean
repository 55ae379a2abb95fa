import DevEnv.Environment.Edit
import DevEnv.Environment.Wire
import DevEnv.Proofs.Environment.Reading
import DevEnv.Workspace

/-!
What edits do. One that is admitted changes the part that it names as it says, and nothing else.
-/

namespace DevEnv

set_option autoImplicit false

open Outcome Checked Reader

/-! ### Stored forms describe nothing else -/

theorem nullably_ofText?_iff {o p : Option String} : Nullably Spells (.ofText? o) p ↔ p = o := by
  constructor
  · intro h
    cases o with
    | none =>
      cases h with
      | null => rfl
      | given hnull _ => exact absurd rfl hnull
    | some s =>
      cases h with
      | given _ hs => rw [Json.text.inj hs]
  · rintro rfl
    exact nullably_ofText? p

theorem BaseSystem.describedBy_toJson_iff {s t : BaseSystem} : DescribedBy s.toJson t ↔ t = s := by
  rw [← read_eq_ok_iff, read_eq_ok_iff.mpr s.describedBy_toJson, Except.ok.injEq, eq_comm]

theorem lists_eq_ok_iff {v : Json} {ls : List Language} :
    Lists Language.DescribedBy v ls ↔ listOf Language.read v = .ok ls := by
  simp only [listOf_eq_ok_iff, Language.read_eq_ok_iff]
  rfl

theorem lists_toJson_iff {ls ms : List Language} :
    Lists Language.DescribedBy (.list (ls.map Language.toJson)) ms ↔ ms = ls := by
  rw [lists_eq_ok_iff, lists_eq_ok_iff.mp (lists_toJson ls), Except.ok.injEq, eq_comm]

theorem SshAccess.nullably_optionToJson_iff {o p : Option SshAccess} :
    Nullably DescribedBy (optionToJson o) p ↔ p = o := by
  have hread : ∀ v q, Nullably DescribedBy v q ↔ nullable SshAccess.read v = .ok q := by
    intro v q
    simp only [nullable_eq_ok_iff, read_eq_ok_iff]
  rw [hread, (hread _ _).mp (nullably_optionToJson o), Except.ok.injEq, eq_comm]

/-! ### Edits -/

namespace Environment

/-- All languages but one. -/
def languagesBut (e : Environment) (name : Json) : List Language :=
  e.languages.filter fun l => .text l.name != name

theorem read_four_iff {name system languages ssh : Json} {e : Environment} :
    read (.object [("name", name), ("os", system), ("languages", languages), ("ssh", ssh)]) =
        .ok e ↔
      Nullably Spells name e.name ∧ BaseSystem.DescribedBy system e.system ∧
        Lists Language.DescribedBy languages e.languages ∧
          Nullably SshAccess.DescribedBy ssh e.ssh := by
  rw [read_eq_ok_iff]
  constructor
  · rintro ⟨fs, hfs, hname, ⟨_, hos, hsystem⟩, hlanguages, hssh⟩
    cases hfs
    cases hos
    refine ⟨?_, hsystem, ?_, ?_⟩
    · cases hname with
      | given h => exact h
    · cases hlanguages with
      | given h => exact h
    · cases hssh with
      | given h => exact h
  · rintro ⟨hname, hsystem, hlanguages, hssh⟩
    exact ⟨_, rfl, .given hname, ⟨_, rfl, hsystem⟩, .given hlanguages, .given hssh⟩

end Environment

/-- What an edit makes of an environment. -/
def Edit.Yields (e e' : Environment) : Edit → Prop
  | .name v =>
    Nullably Spells v e'.name ∧ e'.system = e.system ∧ e'.languages = e.languages ∧ e'.ssh = e.ssh
  | .system n v =>
    e'.name = e.name ∧ (n = .text e'.system.name ∧ v = .text e'.system.version) ∧
      e'.languages = e.languages ∧ e'.ssh = e.ssh
  | .language n v =>
    e'.name = e.name ∧ e'.system = e.system ∧
      (∃ l : Language, (n = .text l.name ∧ v = .text l.version) ∧
        e'.languages = e.languagesBut n ++ [l]) ∧ e'.ssh = e.ssh
  | .removeLanguage n =>
    e'.name = e.name ∧ e'.system = e.system ∧ e'.languages = e.languagesBut n ∧ e'.ssh = e.ssh
  | .ssh access =>
    e'.name = e.name ∧ e'.system = e.system ∧ e'.languages = e.languages ∧ e'.ssh = access

theorem forall₂_append_singleton_left_iff {α β : Type} {R : α → β → Prop} {as : List α} {a : α}
    {bs : List β} :
    List.Forall₂ R (as ++ [a]) bs ↔
      ∃ front b, List.Forall₂ R as front ∧ R a b ∧ bs = front ++ [b] := by
  rw [← List.forall₂_reverse_iff, List.reverse_append, List.reverse_singleton,
    List.singleton_append, List.forall₂_cons_left_iff]
  constructor
  · rintro ⟨b, back, hb, hback, hbs⟩
    refine ⟨back.reverse, b, ?_, hb, ?_⟩
    · rw [← List.forall₂_reverse_iff, List.reverse_reverse]
      exact hback
    · rw [← List.reverse_reverse bs, hbs, List.reverse_cons]
  · rintro ⟨front, b, hfront, hb, rfl⟩
    exact ⟨b, front.reverse, hb, List.forall₂_reverse_iff.mpr hfront, List.reverse_append ..⟩

theorem lists_append_iff {ls ms : List Language} {v : Json} :
    Lists Language.DescribedBy (.list (ls.map Language.toJson ++ [v])) ms ↔
      ∃ l, Language.DescribedBy v l ∧ ms = ls ++ [l] := by
  constructor
  · rintro ⟨vs, hvs, hall⟩
    obtain rfl := Json.list.inj hvs
    obtain ⟨front, l, hfront, hl, rfl⟩ := forall₂_append_singleton_left_iff.mp hall
    obtain rfl := lists_toJson_iff.mp ⟨_, rfl, hfront⟩
    exact ⟨l, hl, rfl⟩
  · rintro ⟨l, hl, rfl⟩
    obtain ⟨vs, hvs, hall⟩ := lists_toJson ls
    obtain rfl := Json.list.inj hvs
    exact ⟨_, rfl, forall₂_append_singleton_left_iff.mpr ⟨ls, l, hall, hl, rfl⟩⟩

theorem names_pair_iff {nameKey name version : String} {n v : Json} (hkey : nameKey ≠ "version") :
    Names nameKey (.object [(nameKey, n), ("version", v)]) name version ↔
      n = .text name ∧ v = .text version := by
  have hne : ("version" == nameKey) = false := beq_false_of_ne hkey.symm
  have hversion : [(nameKey, n), ("version", v)].lookup "version" = some v := by
    rw [List.lookup_cons, hne]
    exact List.lookup_cons_self
  constructor
  · rintro ⟨fs, hfs, hn, hv⟩
    obtain rfl := Json.object.inj hfs
    rw [List.lookup_cons_self] at hn
    rw [hversion] at hv
    exact ⟨Option.some.inj hn, Option.some.inj hv⟩
  · rintro ⟨rfl, rfl⟩
    exact ⟨_, rfl, List.lookup_cons_self, hversion⟩

theorem BaseSystem.describedBy_pair_iff {n v : Json} {s : BaseSystem} :
    DescribedBy (.object [("type", n), ("version", v)]) s ↔
      n = .text s.name ∧ v = .text s.version :=
  names_pair_iff (by decide)

theorem Language.describedBy_pair_iff {n v : Json} {l : Language} :
    DescribedBy (.object [("name", n), ("version", v)]) l ↔
      n = .text l.name ∧ v = .text l.version :=
  names_pair_iff (by decide)

namespace Environment

theorem apply_eq_ok_iff {e e' : Environment} {edit : Edit} :
    e.apply edit = .ok e' ↔ edit.Yields e e' := by
  -- An edit is a description with one part replaced; each other part describes what it was.
  cases edit with
  | name name =>
    refine read_four_iff.trans ?_
    simp only [BaseSystem.describedBy_toJson_iff, lists_toJson_iff,
      SshAccess.nullably_optionToJson_iff]
    rfl
  | system name version =>
    refine read_four_iff.trans ?_
    simp only [nullably_ofText?_iff, BaseSystem.describedBy_pair_iff, lists_toJson_iff,
      SshAccess.nullably_optionToJson_iff]
    rfl
  | language name version =>
    refine read_four_iff.trans ?_
    simp only [nullably_ofText?_iff, BaseSystem.describedBy_toJson_iff,
      otherLanguages, lists_append_iff, Language.describedBy_pair_iff,
      SshAccess.nullably_optionToJson_iff]
    rfl
  | removeLanguage name =>
    refine read_four_iff.trans ?_
    simp only [nullably_ofText?_iff, BaseSystem.describedBy_toJson_iff, otherLanguages,
      lists_toJson_iff, SshAccess.nullably_optionToJson_iff]
    rfl
  | ssh access =>
    refine read_four_iff.trans ?_
    simp only [nullably_ofText?_iff, BaseSystem.describedBy_toJson_iff, lists_toJson_iff,
      SshAccess.nullably_optionToJson_iff]
    rfl

end Environment

end DevEnv
