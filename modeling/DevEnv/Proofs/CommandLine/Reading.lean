import DevEnv.CommandLine.Invocation

/-!
Reading the commands that change the configuration. None of their parameters is a file or has an
environment variable, so their words are read alike everywhere.
-/

namespace DevEnv.CommandLine

set_option autoImplicit false

variable {α β : Type}

/-! ### Readings that do not fail for a path -/

/-- Two readings agree, and a path is not what is wrong. -/
def Alike (x y : Except UsageError α) : Prop := x = y ∧ x ≠ .error .nullInPath

namespace Alike

theorem ok (a : α) : Alike (.ok a) (.ok a) := ⟨rfl, nofun⟩

theorem error {e : UsageError} (h : e ≠ .nullInPath) :
    Alike (.error e : Except UsageError α) (.error e) :=
  ⟨rfl, fun heq => h (Except.error.inj heq)⟩

theorem map {x y : Except UsageError α} (h : Alike x y) (f : α → β) :
    Alike (x.map f) (y.map f) := by
  obtain ⟨rfl, hpath⟩ := h
  cases x with
  | ok a => exact ok (f a)
  | error e => exact ⟨rfl, fun heq => hpath (congrArg _ (Except.error.inj heq))⟩

theorem bind {x y : Except UsageError α} {f g : α → Except UsageError β} (h : Alike x y)
    (hnext : ∀ a, x = .ok a → Alike (f a) (g a)) : Alike (x >>= f) (y >>= g) := by
  obtain ⟨rfl, hpath⟩ := h
  cases x with
  | ok a => exact hnext a rfl
  | error e => exact ⟨rfl, fun heq => hpath (congrArg _ (Except.error.inj heq))⟩

theorem mapM {f g : α → Except UsageError β} {as : List α} (h : ∀ a ∈ as, Alike (f a) (g a)) :
    Alike (as.mapM f) (as.mapM g) := by
  induction as with
  | nil => exact ok []
  | cons a as ih =>
    rw [List.mapM_cons, List.mapM_cons]
    refine (h a List.mem_cons_self).bind fun b _ => ?_
    refine (ih fun a ha => h a (List.mem_cons_of_mem _ ha)).bind fun bs _ => ?_
    exact ok (b :: bs)

end Alike

/-! ### Parameters -/

section Parameters
variable (around around' : Surroundings)

end Parameters

/-! ### Options -/

/-- A reading that has `P` where it comes to something, and otherwise no path to blame. -/
def Sound (P : α → Prop) : Except UsageError α → Prop
  | .ok a => P a
  | .error e => e ≠ .nullInPath

theorem Sound.map {P : α → Prop} {Q : β → Prop} {x : Except UsageError α} {f : α → β}
    (h : Sound P x) (hf : ∀ a, P a → Q (f a)) : Sound Q (x.map f) := by
  cases x with
  | ok a => exact hf a h
  | error e => exact h

theorem Sound.alike {P : α → Prop} {x : Except UsageError α} (h : Sound P x) : Alike x x := by
  cases x with
  | ok a => exact Alike.ok a
  | error e => exact Alike.error h

namespace Grammar

/-- The options of a grammar and that for help. -/
def known (g : Grammar) : List OptionSpec := g.options ++ [helpOption]

variable {g : Grammar}

/-- The options of a command line are those of the grammar. -/
def GivenOf (g : Grammar) (given : Given) : Prop := ∀ p ∈ given.options, p.1 ∈ g.known

theorem GivenOf.withOptions {given : Given} (h : GivenOf g given) {os : List (OptionSpec × String)}
    (hos : ∀ p ∈ os, p.1 ∈ g.known) : GivenOf g (given.withOptions os) := by
  intro p hp
  rcases List.mem_append.mp hp with hp | hp
  · exact hos p hp
  · exact h p hp

end Grammar

/-! ### Commands that change the configuration -/

/-- The words that name such a command. -/
def changers : List String := ["name", "os", "language", "remove-language", "ssh", "reset"]

/-- What such a command can be about. -/
inductive Concerns : String → Invocation → Prop
  | name (name : String) : Concerns "name" (.setName name)
  | system (name version : String) : Concerns "os" (.setSystem name version)
  | language (name version : String) : Concerns "language" (.setLanguage name version)
  | removeLanguage (name : String) : Concerns "remove-language" (.removeLanguage name)
  | ssh (change : SshChange) : Concerns "ssh" (.setSsh change)
  | reset : Concerns "reset" .resetConfig
  | help (word : String) : Concerns word .help

/-- A word that is no option is taken as it stands. -/
theorem pick_cons {options : List OptionSpec} {commands : List (String × α)} {word : String} {a : α}
    (hdash : word.startsWith "-" = false) (hword : word ≠ "--")
    (h : commands.lookup word = some a) (rest : List String) :
    pick options commands (word :: rest) = .ok (some (a, rest)) := by
  have hscan : (Grammar.mk options []).scan false (word :: rest) = .ok ⟨[], word :: rest⟩ := by
    rw [Grammar.scan, if_neg (by simpa using hword), hdash]
    rfl
  simp only [pick, hscan, Except.map, Bind.bind, Except.bind, List.any_nil, h]
  rfl

theorem read_config {word : String} {c : Command} (hword : word ∈ changers)
    (hc : Command.config.lookup word = some c) (around : Surroundings) (rest : List String) :
    Invocation.read around ("config" :: word :: rest) = c.read around rest := by
  have hdash : word.startsWith "-" = false ∧ word ≠ "--" := by
    simp only [changers, List.mem_cons, List.not_mem_nil, or_false] at hword
    rcases hword with rfl | rfl | rfl | rfl | rfl | rfl <;> exact ⟨by simp, by decide⟩
  have htop : pick [.switch ["--verbose", "-v"]] entries ("config" :: word :: rest) =
      .ok (some (.group Command.config, word :: rest)) :=
    pick_cons (by simp) (by decide) rfl _
  have hgroup : pick [] Command.config (word :: rest) = .ok (some (c, rest)) :=
    pick_cons hdash.1 hdash.2 hc rest
  simp only [Invocation.read, htop, hgroup, Bind.bind, Except.bind]

section Words
variable {g : Grammar} {around : Surroundings} {given : Given}

/-- What a command line comes to if nothing is wrong with it. -/
theorem Grammar.values_eq {args : List String} {options defaults : List (List (String × String))}
    (hscan : g.scan true args = .ok given)
    (hhelp : (given.options.any fun o => o.1 == helpOption) = false)
    (hoptions : ((distinct given.options).mapM fun o =>
      o.checked around (o.counting given.options)) = .ok options)
    (harguments : checkArguments around g.arguments given.rest = .ok ())
    (hdefaults : ((g.options.filter fun o => !(distinct given.options).contains o).mapM fun o =>
      o.checked around (o.fromVariable around)) = .ok defaults)
    (hlength : given.rest.length = g.arguments.length) :
    g.values around args = .ok ⟨(options ++ defaults).flatten, given.rest, false⟩ := by
  have hextra : given.rest.drop g.arguments.length = [] := List.drop_of_length_le (by omega)
  have htaken : given.rest.take g.arguments.length = given.rest :=
    List.take_of_length_le (by omega)
  simp only [values, hscan, hhelp, hoptions, harguments, hdefaults, hextra, htaken, Bind.bind,
    Except.bind]
  rfl

/-- A word that is taken as it stands. -/
def Undashed (word : String) : Prop := word.startsWith "-" = false

theorem Grammar.scan_undashed {words : List String} (h : ∀ w ∈ words, Undashed w) :
    g.scan true words = .ok ⟨[], words⟩ := by
  induction words with
  | nil => rfl
  | cons w words ih =>
    have hw : w.startsWith "-" = false := h w List.mem_cons_self
    have hdashes : w ≠ "--" := by
      rintro rfl
      simp at hw
    rw [scan, if_neg (by simpa using hdashes), hw, ih fun v hv => h v (List.mem_cons_of_mem w hv)]
    rfl

/-- A command without options takes its words as they stand. -/
theorem Command.read_plain {specs : List ArgumentSpec} {invocation : Values → Invocation}
    {words : List String} (h : ∀ w ∈ words, Undashed w) (hlength : words.length = specs.length)
    (hcheck : Grammar.checkArguments around specs words = .ok ()) :
    (Command.plain specs invocation).read around words = .ok (invocation ⟨[], words, false⟩) := by
  have hoptions : (([] : List OptionSpec).mapM fun o => o.checked around (o.counting [])) =
      .ok [] := rfl
  have hvalues : (Command.plain specs invocation).grammar.values around words =
      .ok ⟨[], words, false⟩ :=
    Grammar.values_eq (g := ⟨[], specs⟩) (Grammar.scan_undashed h) rfl hoptions hcheck hoptions
      hlength
  rw [Command.read, hvalues]
  rfl

/-- A choice, and then any word. -/
theorem Command.read_choice {options : List String} {label n v : String}
    {invocation : Values → Invocation} (hoffered : n ∈ options) (hn : Undashed n)
    (hv : Undashed v) :
    (Command.plain [.choice (sorted options), .text label] invocation).read around [n, v] =
      .ok (invocation ⟨[], [n, v], false⟩) := by
  have hmem : (sorted options).contains n = true := by
    rw [List.contains_iff_mem, sorted, List.mem_mergeSort]
    exact hoffered
  have hchecked : ∀ label, Kind.checkAs label around (.choice (sorted options)) n = .ok () := by
    intro label
    rw [Kind.checkAs, if_neg (by simp), Kind.check, if_pos hmem]
    rfl
  have hwords : ∀ w ∈ [n, v], Undashed w :=
    List.forall_mem_cons.mpr ⟨hn, List.forall_mem_singleton.mpr hv⟩
  refine Command.read_plain hwords rfl ?_
  rw [Grammar.checkArguments, ArgumentSpec.choice, hchecked]
  rfl

/-! #### Remote access -/

/-- The words for an option that may be left out. -/
def worded (spelling : String) : Option String → List String
  | none => []
  | some value => [spelling, value]

theorem Grammar.scan_worded (spelling : String) {rest : List String} {o : OptionSpec}
    (hdash : (spelling.startsWith "-" && decide (spelling.length > 1)) = true)
    (hdashes : spelling ≠ "--") (hword : g.word spelling = .ok ⟨[], some (o, spelling, none)⟩)
    (value : Option String) (hrest : g.scan true rest = .ok given) :
    g.scan true (worded spelling value ++ rest) =
      .ok (given.withOptions (value.toList.map fun v => (o, v))) := by
  cases value with
  | none => exact hrest
  | some value =>
    rw [worded, List.cons_append, List.cons_append, scan, if_neg (by simpa using hdashes),
      if_pos hdash, hword]
    dsimp only
    rw [List.nil_append, hrest]
    rfl

/-- Words that give these settings of remote access. -/
def sshWords (port password key : Option String) : List String :=
  worded "--port" port ++ (worded "--password" password ++ worded "--public-key" key)

/-- The settings of remote access that are given. -/
def settingsGiven (port password key : Option String) : List (OptionSpec × String) :=
  (port.toList.map fun v => (.single ["--port"] .integer, v)) ++
    ((password.toList.map fun v => (.single ["--password"] .text, v)) ++
      key.toList.map fun v => (.single ["--public-key"] .text, v))

theorem Command.scan_ssh (port password key : Option String) :
    Command.ssh.grammar.scan true (sshWords port password key) =
      .ok ⟨settingsGiven port password key, []⟩ := by
  have hend : Command.ssh.grammar.scan true [] = .ok ⟨[], []⟩ := rfl
  have hkey := Grammar.scan_worded "--public-key" (by decide +kernel) (by decide) rfl key hend
  have hpassword := Grammar.scan_worded "--password" (by decide +kernel) (by decide) rfl password hkey
  have hport := Grammar.scan_worded "--port" (by decide +kernel) (by decide) rfl port hpassword
  rw [List.append_nil] at hport
  rw [sshWords, hport]
  simp only [Given.withOptions, List.append_nil]
  rfl

theorem OptionSpec.checked_integer {value : String} (h : (Text.integer? value).isSome)
    (name : String) :
    (OptionSpec.single [name] .integer).checked around [value] = .ok [(name, value)] := by
  have hcheck : ∀ label, Kind.checkAs label around .integer value = .ok () := by
    obtain ⟨n, hn⟩ := Option.isSome_iff_exists.mp h
    intro label
    rw [Kind.checkAs, if_neg (by simp), Kind.check, hn]
    rfl
  change (Kind.checkAs _ around .integer value >>= _) >>= _ = _
  rw [hcheck]
  rfl

theorem Command.values_ssh {port : Option String}
    (hport : ∀ p, port = some p → (Text.integer? p).isSome) (password key : Option String) :
    Command.ssh.grammar.values around (sshWords port password key) =
      .ok ⟨(settingsGiven port password key).map fun x => (x.1.name, x.2), [], false⟩ := by
  have hscan := Command.scan_ssh port password key
  cases port with
  | none => cases password <;> cases key <;> exact Grammar.values_eq hscan rfl rfl rfl rfl rfl
  | some p =>
    have hchecked : (OptionSpec.single ["--port"] .integer).checked around [p] =
        .ok [("--port", p)] := OptionSpec.checked_integer (hport p rfl) "--port"
    have hoptions : ∀ (os : List OptionSpec) (values : OptionSpec → List String),
        values (.single ["--port"] .integer) = [p] →
        (OptionSpec.single ["--port"] .integer :: os).mapM (fun o => o.checked around (values o)) =
          (os.mapM fun o => o.checked around (values o)) >>= fun xs =>
            .ok ([("--port", p)] :: xs) := by
      intro os values hvalues
      rw [List.mapM_cons, hvalues, hchecked]
      rfl
    cases password <;> cases key <;>
      exact Grammar.values_eq hscan rfl ((hoptions _ _ rfl).trans rfl) rfl rfl rfl

theorem Command.read_ssh {port : Option String}
    (hport : ∀ p, port = some p → (Text.integer? p).isSome) (password key : Option String) :
    Command.ssh.read around (sshWords port password key) =
      .ok (.setSsh ⟨port.bind Text.integer?, password, key, false⟩) := by
  rw [Command.read, Command.values_ssh hport]
  cases port <;> cases password <;> cases key <;> rfl

theorem Command.read_ssh_disable :
    Command.ssh.read around ["--disable"] = .ok (.setSsh ⟨none, none, none, true⟩) := by
  have hscan : Command.ssh.grammar.scan true ["--disable"] =
      .ok ⟨[(.switch ["--disable"], "")], []⟩ := by
    rw [Grammar.scan, if_neg (by decide), if_pos (by decide +kernel)]
    rfl
  simp only [Command.read, Grammar.values, hscan, Bind.bind, Except.bind]
  rfl

end Words

/-- What the words after the group's name ask for. -/
inductive Asks : List String → Invocation → Prop
  | name {n : String} : Undashed n → Asks ["name", n] (.setName n)
  | system {n v : String} :
      n ∈ Catalog.systems.map (·.name) → Undashed n → Undashed v →
        Asks ["os", n, v] (.setSystem n v)
  | language {n v : String} :
      n ∈ Catalog.languages.map (·.name) → Undashed n → Undashed v →
        Asks ["language", n, v] (.setLanguage n v)
  | removeLanguage {n : String} : Undashed n → Asks ["remove-language", n] (.removeLanguage n)
  | ssh {port : Option String} (password key : Option String) :
      (∀ p, port = some p → (Text.integer? p).isSome) →
        Asks ("ssh" :: sshWords port password key)
          (.setSsh ⟨port.bind Text.integer?, password, key, false⟩)
  | disable : Asks ["ssh", "--disable"] (.setSsh ⟨none, none, none, true⟩)
  | reset : Asks ["reset"] .resetConfig

theorem Asks.read {words : List String} {invocation : Invocation} (h : Asks words invocation)
    (around : Surroundings) : Invocation.read around ("config" :: words) = .ok invocation := by
  cases h with
  | name hn =>
    rw [read_config (by decide) rfl]
    exact Command.read_plain (List.forall_mem_singleton.mpr hn) rfl rfl
  | system hoffered hn hv =>
    rw [read_config (by decide) rfl]
    exact Command.read_choice hoffered hn hv
  | language hoffered hn hv =>
    rw [read_config (by decide) rfl]
    exact Command.read_choice hoffered hn hv
  | removeLanguage hn =>
    rw [read_config (by decide) rfl]
    exact Command.read_plain (List.forall_mem_singleton.mpr hn) rfl rfl
  | ssh password key hport =>
    rw [read_config (by decide) rfl]
    exact Command.read_ssh hport password key
  | disable =>
    rw [read_config (by decide) rfl]
    exact Command.read_ssh_disable
  | reset =>
    rw [read_config (by decide) rfl]
    exact Command.read_plain nofun rfl rfl

end DevEnv.CommandLine
