import DevEnv.Proofs.Dockerfile.Breaks
import DevEnv.Proofs.Text.ShellWord

/-!
What of an environment reaches its build file, and that the text of the file tells all of it. The
text is read from the front: a line ends at its break, a block is known by its first line, and a
quoted secret tells where it ends.
-/

namespace DevEnv

set_option autoImplicit false

namespace Text

/-- Lines as they are written, each with its break. -/
def written (lines : List String) : List Char := lines.flatMap fun line => line.toList ++ ['\n']

@[simp] theorem written_nil : written [] = [] := rfl

@[simp] theorem written_cons (line : String) (lines : List String) :
    written (line :: lines) = line.toList ++ '\n' :: written lines := by
  simp [written]

@[simp] theorem written_append (ls ms : List String) :
    written (ls ++ ms) = written ls ++ written ms := by
  simp [written]

theorem written_append_cancel {front ls ms : List String}
    (h : written (front ++ ls) = written (front ++ ms)) : written ls = written ms := by
  rw [written_append, written_append] at h
  exact List.append_cancel_left h

/-- A separator that stands in neither front part cuts both texts at the same place. -/
theorem append_cons_inj {c : Char} {a b x y : List Char} (ha : c ∉ a) (hb : c ∉ b)
    (h : a ++ c :: x = b ++ c :: y) : a = b ∧ x = y := by
  induction a generalizing b with
  | nil =>
    cases b with
    | nil => exact ⟨rfl, (List.cons.inj h).2⟩
    | cons d b =>
      have hd := (List.cons.inj h).1
      exact absurd (hd ▸ List.mem_cons_self) hb
  | cons d a ih =>
    cases b with
    | nil =>
      have hd := (List.cons.inj h).1
      exact absurd (hd ▸ List.mem_cons_self) ha
    | cons e b =>
      obtain ⟨hde, hrest⟩ := List.cons.inj h
      obtain ⟨hab, hxy⟩ := ih (fun hc => ha (List.mem_cons_of_mem _ hc))
        (fun hc => hb (List.mem_cons_of_mem _ hc)) hrest
      exact ⟨by rw [hde, hab], hxy⟩

theorem written_cons_inj {l m : String} {ls ms : List String} (hl : Unbroken l)
    (hm : Unbroken m) (h : written (l :: ls) = written (m :: ms)) :
    l = m ∧ written ls = written ms := by
  rw [written_cons, written_cons] at h
  obtain ⟨hline, hrest⟩ := append_cons_inj hl hm h
  exact ⟨String.toList_inj.mp hline, hrest⟩

theorem toString_injective {m n : Int} (h : toString m = toString n) : m = n := by
  have hrepr : ∀ {a b : Nat}, a.repr = b.repr → a = b := by
    intro a b hab
    have hdigits : Nat.toDigits 10 a = Nat.toDigits 10 b := String.ofList_inj.mp hab
    rw [← Nat.ofDigitChars_ten_toDigits (n := a), hdigits, Nat.ofDigitChars_ten_toDigits]
  have hsign : ∀ a b : Nat, a.repr ≠ "-" ++ b.repr := by
    intro a b hab
    have hmem : '-' ∈ Nat.toDigits 10 a := by
      have htoList := congrArg String.toList hab
      rw [Nat.repr, String.toList_ofList] at htoList
      simp [htoList]
    exact absurd (Nat.isDigit_of_mem_toDigits (by decide) (by decide) hmem) (by decide)
  cases m with
  | ofNat a =>
    cases n with
    | ofNat b => exact congrArg Int.ofNat (hrepr h)
    | negSucc b => exact absurd h (hsign a (b + 1))
  | negSucc a =>
    cases n with
    | ofNat b => exact absurd h.symm (hsign b (a + 1))
    | negSucc b =>
      have hab : (a + 1).repr = (b + 1).repr := (String.append_right_inj "-").mp h
      exact congrArg Int.negSucc (Nat.succ.inj (hrepr hab))

end Text

namespace Dockerfile

open Text

theorem toList_text_eq_written {d : Dockerfile} (h : d.lines ≠ []) :
    d.text.toList = written d.lines := by
  rw [toList_text, intercalate_append_break (by simpa using h), List.flatMap_map]
  rfl

/-! ### The base image -/

def fromLine (s : BaseSystem) : String := "FROM " ++ (s.name ++ ":" ++ s.version)

theorem unbroken_fromLine (s : BaseSystem) : Unbroken (fromLine s) := by
  obtain ⟨system, -, hname, hmem, hversion⟩ := system?_of_base s
  obtain ⟨hunbroken, hversions⟩ := Environment.oneLined_catalogSystems system hmem
  rw [hname] at hunbroken
  exact (unbroken_literal rfl).append
    ((hunbroken.append (unbroken_literal rfl)).append (hversions _ hversion))

theorem colon_not_mem_name (s : BaseSystem) : ':' ∉ s.name.toList := by
  obtain ⟨system, -, hname, hmem, -⟩ := system?_of_base s
  have hall : ∀ system ∈ Catalog.systems, ':' ∉ system.name.toList := by decide
  exact hname ▸ hall system hmem

theorem fromLine_injective {s t : BaseSystem} (h : fromLine s = fromLine t) : s = t := by
  have himage := congrArg String.toList ((String.append_right_inj "FROM ").mp h)
  simp only [String.toList_append, List.append_assoc] at himage
  obtain ⟨hname, hversion⟩ :=
    append_cons_inj (colon_not_mem_name s) (colon_not_mem_name t) himage
  cases s
  cases t
  simp_all [String.toList_inj]

/-! ### Languages -/

def installLine (l : Language) : String := "# Install " ++ l.name ++ " " ++ l.version

theorem unbroken_installLine (l : Language) : Unbroken (installLine l) := by
  obtain ⟨language, hmem, hname, hversion⟩ := language?_of_language l
  obtain ⟨hunbroken, hversions⟩ := oneLined_catalogLanguages language hmem
  rw [hname] at hunbroken
  exact (((unbroken_literal rfl).append hunbroken).append (unbroken_literal rfl)).append
    (hversions _ hversion)

theorem blank_not_mem_name (l : Language) : ' ' ∉ l.name.toList := by
  obtain ⟨language, hmem, hname, -⟩ := language?_of_language l
  have hall : ∀ language ∈ Catalog.languages, ' ' ∉ language.name.toList := by decide
  exact hname ▸ hall language hmem

theorem installLine_injective {l m : Language} (h : installLine l = installLine m) : l = m := by
  have hchars := congrArg String.toList h
  simp only [installLine, String.toList_append, List.append_assoc] at hchars
  obtain ⟨hname, hversion⟩ := append_cons_inj (blank_not_mem_name l) (blank_not_mem_name m)
    (List.append_cancel_left hchars)
  cases l
  cases m
  simp_all [String.toList_inj]

/-- The first line of the part about remote access. -/
def accessHeader : Option SshAccess → String
  | some _ => "# Install and configure SSH server"
  | none => "# Set default command"

theorem unbroken_accessHeader (access : Option SshAccess) : Unbroken (accessHeader access) := by
  cases access <;> exact unbroken_literal rfl

theorem accessBlock_eq_cons (family : Family) (access : Option SshAccess) :
    ∃ rest, accessBlock family access = accessHeader access :: rest := by
  cases access <;> exact ⟨_, rfl⟩

/-- No language is called "and", so the part about access cannot be taken for a language. -/
theorem installLine_ne_accessHeader (l : Language) (access : Option SshAccess) :
    installLine l ≠ accessHeader access := by
  obtain ⟨language, hmem, hname, -⟩ := language?_of_language l
  intro h
  have hchars := congrArg String.toList h
  cases access with
  | none => simp [installLine, accessHeader] at hchars
  | some a =>
    have hall : ∀ language ∈ Catalog.languages, language.name ≠ "and" := by decide
    simp only [installLine, String.toList_append, List.append_assoc] at hchars
    have hheader : (accessHeader (some a)).toList =
        "# Install ".toList ++ ("and".toList ++ ' ' :: "configure SSH server".toList) := by
      rw [accessHeader]
      decide
    have hrest := List.append_cancel_left (hchars.trans hheader)
    have hand := (append_cons_inj (blank_not_mem_name l) (by decide) hrest).1
    exact hall language hmem (hname.trans (String.toList_inj.mp hand))

theorem languageLines_eq_cons (family : Family) (l : Language) :
    ∃ rest, languageLines family l = installLine l :: rest := by
  obtain ⟨recipe, hfound⟩ := recipe_of_language family l
  exact ⟨recipe l.version ++ [""], by simp [languageLines, hfound, installLine]⟩

/-- The languages are read block by block; the first line that names none ends them. -/
theorem languages_written_inj {family : Family} {ls ms : List Language}
    {access access' : Option SshAccess}
    (h : written (ls.flatMap (languageLines family) ++ accessBlock family access) =
      written (ms.flatMap (languageLines family) ++ accessBlock family access')) :
    ls = ms ∧ written (accessBlock family access) = written (accessBlock family access') := by
  have clash : ∀ l rest access, written (languageLines family l ++ rest) ≠
      written (accessBlock family access) := by
    intro l rest access heq
    obtain ⟨block, hblock⟩ := languageLines_eq_cons family l
    obtain ⟨front, hfront⟩ := accessBlock_eq_cons family access
    rw [hblock, hfront, List.cons_append] at heq
    exact installLine_ne_accessHeader l access
      (written_cons_inj (unbroken_installLine l) (unbroken_accessHeader access) heq).1
  induction ls generalizing ms with
  | nil =>
    cases ms with
    | nil => exact ⟨rfl, h⟩
    | cons m ms =>
      rw [List.flatMap_cons, List.append_assoc] at h
      exact absurd h.symm (clash m _ access)
  | cons l ls ih =>
    cases ms with
    | nil =>
      rw [List.flatMap_cons, List.append_assoc] at h
      exact absurd h (clash l _ access')
    | cons m ms =>
      simp only [List.flatMap_cons, List.append_assoc] at h
      obtain ⟨block, hblock⟩ := languageLines_eq_cons family l
      obtain ⟨block', hblock'⟩ := languageLines_eq_cons family m
      have hlm : l = m := by
        rw [hblock, hblock', List.cons_append, List.cons_append] at h
        exact installLine_injective
          (written_cons_inj (unbroken_installLine l) (unbroken_installLine m) h).1
      subst hlm
      obtain ⟨hls, haccess⟩ := ih (written_append_cancel h)
      exact ⟨by rw [hls], haccess⟩

/-! ### Remote access -/

/-- A line that echoes a quoted text, in front of any other lines. -/
theorem echoLine_inj {s t tail : String} {ls ms : List String}
    (htail : ∀ rest, EndsWord (tail.toList ++ rest))
    (h : written (innerLine ("echo " ++ Text.shellWord s ++ tail) :: ls) =
      written (innerLine ("echo " ++ Text.shellWord t ++ tail) :: ms)) :
    s = t ∧ written ls = written ms := by
  simp only [written_cons, innerLine, String.toList_append, List.append_assoc] at h
  have hword := List.append_cancel_left (List.append_cancel_left h)
  obtain ⟨hst, hrest⟩ := shellWord_append_inj (htail _) (htail _) hword
  have hbreak := List.append_cancel_left (List.append_cancel_left hrest)
  exact ⟨hst, (List.cons.inj hbreak).2⟩

theorem passwordLine_inj {p q : String} {ls ms : List String}
    (h : written (innerLine (passwordCommand p) :: ls) =
      written (innerLine (passwordCommand q) :: ms)) : p = q ∧ written ls = written ms := by
  have htail : ∀ rest, EndsWord (" | chpasswd".toList ++ rest) :=
    fun _ => endsWord_cons _ (by decide)
  obtain ⟨hword, hrest⟩ := echoLine_inj htail h
  exact ⟨(String.append_right_inj "root:").mp hword, hrest⟩

theorem keyLine_inj {k l : String} {ls ms : List String}
    (h : written (innerLine (keyCommand k) :: ls) = written (innerLine (keyCommand l) :: ms)) :
    k = l ∧ written ls = written ms := by
  have htail : ∀ rest, EndsWord (" >> /root/.ssh/authorized_keys".toList ++ rest) :=
    fun _ => endsWord_cons _ (by decide)
  exact echoLine_inj htail h

theorem serverLines_append (family : Family) (password : String) (ls : List String) :
    serverLines family password ++ ls =
      (("RUN " ++ updateCommand family ++ " && \\") :: (beforePassword family).map innerLine) ++
        innerLine (passwordCommand password) ::
          (((afterPassword family).map innerLine ++ ["    rm -rf " ++ cacheDirectory family]) ++
            ls) := by
  simp [serverLines, withPackages_eq]

theorem serverLines_inj {family : Family} {p q : String} {ls ms : List String}
    (h : written (serverLines family p ++ ls) = written (serverLines family q ++ ms)) :
    p = q ∧ written ls = written ms := by
  rw [serverLines_append, serverLines_append] at h
  obtain ⟨hpq, hback⟩ := passwordLine_inj (written_append_cancel h)
  exact ⟨hpq, written_append_cancel hback⟩

/-- Behind the authorisation, or in its place, comes an empty line. -/
theorem authorisation_inj {k l : Option String} {ls ms : List String}
    (h : written (authorisation k ++ "" :: ls) = written (authorisation l ++ "" :: ms)) :
    k = l ∧ written ls = written ms := by
  have hsome : ∀ key rest, written (authorisation (some key) ++ rest) =
      written ("RUN mkdir -p /root/.ssh && \\" :: innerLine (keyCommand key) ::
        "    chmod 700 /root/.ssh && chmod 600 /root/.ssh/authorized_keys" :: rest) :=
    fun _ _ => rfl
  cases k with
  | none =>
    cases l with
    | none => exact ⟨rfl, (written_cons_inj (unbroken_literal rfl) (unbroken_literal rfl) h).2⟩
    | some l =>
      rw [hsome] at h
      simp [authorisation] at h
  | some k =>
    cases l with
    | none =>
      rw [hsome] at h
      simp [authorisation] at h
    | some l =>
      rw [hsome, hsome] at h
      obtain ⟨-, hkey⟩ := written_cons_inj (unbroken_literal rfl) (unbroken_literal rfl) h
      obtain ⟨hkl, hchmod⟩ := keyLine_inj hkey
      obtain ⟨-, hempty⟩ := written_cons_inj (unbroken_literal rfl) (unbroken_literal rfl) hchmod
      obtain ⟨-, hrest⟩ := written_cons_inj (unbroken_literal rfl) (unbroken_literal rfl) hempty
      exact ⟨by rw [hkl], hrest⟩

end Dockerfile

/-- What a build file shows of enabled access. -/
structure Login where
  port : Int
  password : String
  key : Option String
deriving DecidableEq, Repr

def SshAccess.login (a : SshAccess) : Login := ⟨a.port, a.password, a.effectiveKey?⟩

/-- What a build file shows of an environment: neither its name nor any setting of access that is
switched off. -/
structure Footprint where
  system : BaseSystem
  languages : List Language
  login : Option Login
deriving DecidableEq, Repr

def Environment.footprint (e : Environment) : Footprint where
  system := e.system
  languages := e.languages
  login := e.activeSsh?.map SshAccess.login

namespace Dockerfile

open Text

theorem accessBlock_inj {family : Family} {access access' : Option SshAccess}
    (h : written (accessBlock family access) = written (accessBlock family access')) :
    access.map SshAccess.login = access'.map SshAccess.login := by
  have hheader : accessHeader access = accessHeader access' := by
    obtain ⟨rest, hrest⟩ := accessBlock_eq_cons family access
    obtain ⟨rest', hrest'⟩ := accessBlock_eq_cons family access'
    rw [hrest, hrest'] at h
    exact (written_cons_inj (unbroken_accessHeader _) (unbroken_accessHeader _) h).1
  cases access with
  | none =>
    cases access' with
    | none => rfl
    | some a' => simp [accessHeader] at hheader
  | some a =>
    cases access' with
    | none => simp [accessHeader] at hheader
    | some a' =>
      have hport : ∀ n : Int, Unbroken ("EXPOSE " ++ toString n) :=
        fun n => (unbroken_literal rfl).append (unbroken_toString n)
      simp only [accessBlock, loginLines, List.cons_append, List.append_assoc,
        List.nil_append] at h
      obtain ⟨-, hserver⟩ := written_cons_inj (unbroken_literal rfl) (unbroken_literal rfl) h
      obtain ⟨hpassword, hkey⟩ := serverLines_inj hserver
      obtain ⟨hkey, hexpose⟩ := authorisation_inj hkey
      obtain ⟨hexpose, -⟩ := written_cons_inj (hport a.port) (hport a'.port) hexpose
      have hport := toString_injective ((String.append_right_inj "EXPOSE ").mp hexpose)
      simp only [Option.map_some, SshAccess.login, hport, hpassword, hkey]

theorem accessBlock_congr {family : Family} {access access' : Option SshAccess}
    (h : access.map SshAccess.login = access'.map SshAccess.login) :
    accessBlock family access = accessBlock family access' := by
  cases access with
  | none =>
    cases access' with
    | none => rfl
    | some a' => simp at h
  | some a =>
    cases access' with
    | none => simp at h
    | some a' =>
      obtain ⟨hport, hpassword, hkey⟩ := Login.mk.inj (Option.some.inj h)
      simp only [accessBlock, loginLines, hport, hpassword, hkey]

end Dockerfile

namespace Environment

open Text Dockerfile

@[simp] theorem isSome_login_footprint (e : Environment) :
    e.footprint.login.isSome = e.sshEnabled := by
  rw [footprint, activeSsh?, sshEnabled]
  cases e.ssh with
  | none => rfl
  | some a => cases h : a.enabled <;> simp [h]

theorem compiled_congr {e e' : Environment} (h : e.footprint = e'.footprint) :
    e.compiled = e'.compiled := by
  obtain ⟨hsystem, hlanguages, hlogin⟩ := Footprint.mk.inj h
  have hfamily : e.family = e'.family := by rw [family, family, hsystem]
  rw [compiled, compiled, hsystem, hlanguages, hfamily, accessBlock_congr hlogin]

theorem footprint_inj {e e' : Environment} (h : e.compiled.text = e'.compiled.text) :
    e.footprint = e'.footprint := by
  have hlines : ∀ e : Environment, e.compiled.text.toList =
      written (fromLine e.system :: (["", "WORKDIR /app", ""] ++
        (e.languages.flatMap (languageLines e.family) ++ accessBlock e.family e.activeSsh?))) := by
    intro e
    rw [toList_text_eq_written (by simp [compiled]), compiled, List.append_assoc]
    rfl
  have hwritten := congrArg String.toList h
  rw [hlines, hlines] at hwritten
  obtain ⟨hfrom, hrest⟩ :=
    written_cons_inj (unbroken_fromLine e.system) (unbroken_fromLine e'.system) hwritten
  have hsystem := fromLine_injective hfrom
  have hfamily : e.family = e'.family := by rw [family, family, hsystem]
  rw [hfamily] at hrest
  obtain ⟨hlanguages, haccess⟩ := languages_written_inj (written_append_cancel hrest)
  rw [footprint, footprint, hsystem, hlanguages, accessBlock_inj haccess]

/-- Two valid environments have the same build file, as a text, exactly if they have the same
footprint. -/
theorem assembled_text_eq_iff (e e' : Environment) :
    ∃ file file', e.toDraft.assemble = .ok file ∧ e'.toDraft.assemble = .ok file' ∧
      (file.text = file'.text ↔ e.footprint = e'.footprint) := by
  refine ⟨e.compiled, e'.compiled, assemble_toDraft e, assemble_toDraft e', footprint_inj, ?_⟩
  intro h
  rw [compiled_congr h]

end Environment

end DevEnv
