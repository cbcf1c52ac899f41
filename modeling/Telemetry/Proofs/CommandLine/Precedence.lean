import Mathlib.Data.Fintype.Option
import Telemetry.CommandLine.Load
import Telemetry.Proofs.Outcome

/-!
# Which source decides a setting

A setting may be given on the command line, by an environment variable and in the configuration
file.  `Config.preferred` is the configuration in which the first of these sources that gives a
setting decides it, and the usual configuration decides the others.  A run starts if and only if
this configuration can be started, whatever the sources behind it say, and takes everything from it
but for one setting (`Options.load_of_sources`).

The exception is a flag that is off.  On the command line there is none
(`Options.flagsOn_of_parse_eq_ok`), but an environment variable can turn printing off, and this says
nothing: a file that turns it on behind it has its way (`Options.verbose_off_loses`).
-/

namespace Telemetry

/-! ### Properties that reading a command line keeps -/

namespace Options

/-- The property is kept when one more option is given. -/
structure IsKept (Q : Options → Prop) : Prop where
  setValue {o o' : Options} {option : ValueOption} {text : String} :
    Q o → o.setValue option text = .ok o' → Q o'
  setFlag {o o' : Options} {option : FlagOption} : Q o → o.setFlag option = .ok o' → Q o'

namespace IsKept

variable {Q : Options → Prop} {p p' : Progress} {o : Options}

theorem settle (hQ : IsKept Q) (hp : Q p.options) (h : p.settle = .ok o) : Q o := by
  unfold Progress.settle at h
  split at h
  · exact Except.ok.inj h ▸ hp
  · cases h
  · exact hQ.setValue hp h

theorem flag (hQ : IsKept Q) (hp : Q p.options) {f : FlagOption} (h : p.flag f = .ok p') :
    Q p'.options := by
  obtain ⟨settled, hsettled, h⟩ := exists_of_bind_eq_ok h
  obtain ⟨o, ho, rfl⟩ := exists_of_bind_pure_eq_ok h
  exact hQ.setFlag (hQ.settle hp hsettled) ho

theorem option (hQ : IsKept Q) (hp : Q p.options) {v : ValueOption} {attached : Option String}
    (h : p.option v attached = .ok p') : Q p'.options := by
  obtain ⟨settled, hsettled, h⟩ := exists_of_bind_eq_ok h
  have hkept := hQ.settle hp hsettled
  cases attached with
  | none =>
    cases h
    exact hkept
  | some text =>
    obtain ⟨o, ho, rfl⟩ := exists_of_bind_pure_eq_ok h
    exact hQ.setValue hkept ho

theorem letters (hQ : IsKept Q) {text : List Char} (hp : Q p.options)
    (h : p.letters text = .ok p') : Q p'.options := by
  induction text generalizing p with
  | nil =>
    cases h
    exact hp
  | cons letter rest ih =>
    unfold Progress.letters at h
    split at h
    · obtain ⟨next, hnext, h⟩ := exists_of_bind_eq_ok h
      exact ih (hQ.flag hp hnext) h
    · split at h <;> exact hQ.option hp h
    · cases h

theorem long (hQ : IsKept Q) {text : List Char} (hp : Q p.options) (h : p.long text = .ok p') :
    Q p'.options := by
  unfold Progress.long at h
  dsimp only at h
  split at h
  · exact hQ.option hp h
  · exact hQ.flag hp h
  · cases h
  · cases h

theorem plain (hp : Q p.options) {text : String} (h : p.plain text = .ok p') : Q p'.options := by
  unfold Progress.plain at h
  split at h
  · cases h
    exact hp
  · cases h

theorem argument (hQ : IsKept Q) (hp : Q p.options) {text : String}
    (h : p.argument text = .ok p') : Q p'.options := by
  unfold Progress.argument at h
  split at h
  · exact hQ.long hp h
  · exact hQ.letters hp h
  · exact plain hp h

theorem arguments (hQ : IsKept Q) {texts : List String} (hp : Q p.options)
    (h : p.arguments texts = .ok o) : Q o := by
  induction texts generalizing p with
  | nil => exact hQ.settle hp h
  | cons text rest ih =>
    unfold Progress.arguments at h
    split at h
    · split at h
      · exact hQ.settle hp h
      · cases h
    · obtain ⟨next, hnext, h⟩ := exists_of_bind_eq_ok h
      exact ih (hQ.argument hp hnext) h

/-- **What holds where nothing is given, and is kept, holds of every command line.** -/
theorem parse (hQ : IsKept Q) (hnone : Q Options.none) {texts : List String}
    (h : Options.parse texts = .ok o) : Q o :=
  hQ.arguments (p := ⟨Options.none, Option.none⟩) hnone h

end IsKept

/-! ### Flags on the command line -/

/-- A flag that is given is on. -/
structure FlagsOn (o : Options) : Prop where
  verbose : o.verbose ≠ some false
  debug : o.debug ≠ some false
  checkConfig : o.checkConfig ≠ some false

theorem once_ne_off {before after : Option Bool} (h : once before (.ok true) = .ok after) :
    after ≠ some false := by
  unfold once at h
  split at h
  · cases h
  · cases h
    decide

theorem isKept_flagsOn : IsKept FlagsOn where
  setValue {o o' option text} ho h := by
    cases option <;>
    · obtain ⟨a, -, rfl⟩ := exists_of_bind_pure_eq_ok h
      exact ⟨ho.verbose, ho.debug, ho.checkConfig⟩
  setFlag {o o' option} ho h := by
    cases option with
    | verbose =>
      obtain ⟨a, ha, rfl⟩ := exists_of_bind_pure_eq_ok h
      exact ⟨once_ne_off ha, ho.debug, ho.checkConfig⟩
    | debug =>
      obtain ⟨a, ha, rfl⟩ := exists_of_bind_pure_eq_ok h
      exact ⟨ho.verbose, once_ne_off ha, ho.checkConfig⟩
    | checkConfig =>
      obtain ⟨a, ha, rfl⟩ := exists_of_bind_pure_eq_ok h
      exact ⟨ho.verbose, ho.debug, once_ne_off ha⟩
    | help => cases h
    | version => cases h

/-- **The command line turns no flag off.** -/
theorem flagsOn_of_parse_eq_ok {texts : List String} {o : Options} (h : parse texts = .ok o) :
    o.FlagsOn :=
  isKept_flagsOn.parse ⟨by decide, by decide, by decide⟩ h

/-! ### The environment -/

/-- What an environment variable says, if it is set and can be read. -/
def fromEnvironment {α : Type} (env : String → Option String) (name : String)
    (read : String → Except OptionFault α) : Option α :=
  (env name).bind fun text => (read text).toOption

/-- The options with what the environment says where they say nothing. -/
def withEnvironment (given : Options) (env : String → Option String) : Options :=
  { given with
    grpcPort := given.grpcPort.or (fromEnvironment env "OTELSCOPE_GRPC_PORT" port)
    httpPort := given.httpPort.or (fromEnvironment env "OTELSCOPE_HTTP_PORT" port)
    uiPort := given.uiPort.or (fromEnvironment env "OTELSCOPE_UI_PORT" port)
    verbose := given.verbose.or (fromEnvironment env "OTELSCOPE_VERBOSE" bool)
    debug := given.debug.or (fromEnvironment env "OTELSCOPE_DEBUG" bool)
    staticDir := given.staticDir.or (fromEnvironment env "OTELSCOPE_STATIC_DIR" fileName)
    config := given.config.or (fromEnvironment env "OTELSCOPE_CONFIG" fileName) }

theorem orVariable_eq_ok {α : Type} {given after : Option α} {env : String → Option String}
    {name : String} {read : String → Except OptionFault α}
    (h : orVariable given (env name) read = .ok after) :
    given.or (fromEnvironment env name read) = after := by
  unfold fromEnvironment
  unfold orVariable at h
  split at h
  · exact Except.ok.inj h
  · rename_i text hset
    obtain ⟨a, ha, rfl⟩ := exists_of_map_eq_ok h
    rw [hset, Option.none_or, Option.bind_some, ha]
    rfl
  · rename_i hunset
    rw [hunset]
    exact Except.ok.inj h

theorem orEnvironment_eq_ok {given o : Options} {env : String → Option String}
    (h : given.orEnvironment env = .ok o) : given.withEnvironment env = o := by
  obtain ⟨grpcPort, hgrpc, h⟩ := exists_of_bind_eq_ok h
  obtain ⟨httpPort, hhttp, h⟩ := exists_of_bind_eq_ok h
  obtain ⟨uiPort, hui, h⟩ := exists_of_bind_eq_ok h
  obtain ⟨verbose, hverbose, h⟩ := exists_of_bind_eq_ok h
  obtain ⟨debug, hdebug, h⟩ := exists_of_bind_eq_ok h
  obtain ⟨staticDir, hstaticDir, h⟩ := exists_of_bind_eq_ok h
  obtain ⟨config, hconfig, rfl⟩ := exists_of_bind_pure_eq_ok h
  unfold withEnvironment
  rw [orVariable_eq_ok hgrpc, orVariable_eq_ok hhttp, orVariable_eq_ok hui,
    orVariable_eq_ok hverbose, orVariable_eq_ok hdebug, orVariable_eq_ok hstaticDir,
    orVariable_eq_ok hconfig]

theorem read_eq_ok {texts : List String} {env : String → Option String} {given o : Options}
    (hgiven : parse texts = .ok given) (h : read texts env = .ok o) :
    given.withEnvironment env = o := by
  unfold Options.read at h
  rw [hgiven] at h
  exact orEnvironment_eq_ok h

/-- The only text that turns a flag off. -/
theorem fromEnvironment_bool_eq_off {env : String → Option String} {name : String} :
    fromEnvironment env name bool = some false ↔ env name = some "false" := by
  unfold fromEnvironment
  cases env name with
  | none => exact iff_of_false nofun nofun
  | some text =>
    rw [Option.bind_some, Option.some.injEq, Options.bool]
    split
    · rename_i htrue
      rw [htrue]
      decide
    split
    · rename_i hfalse
      rw [hfalse]
      decide
    · rename_i hother
      exact iff_of_false nofun hother

end Options

/-! ### The configuration that the sources ask for -/

namespace Config

/-- What the first source says that says something. -/
def firstOf {α : Type} (given fromVariable fromFile : Option α) (usual : α) : α :=
  ((given.or fromVariable).or fromFile).getD usual

open Options in
/-- The configuration in which the command line comes before the environment, the environment
before the file, and the file before the usual configuration. -/
def preferred (given : Options) (env : String → Option String) (file : Settings) : Config :=
  { grpcPort := firstOf given.grpcPort (fromEnvironment env "OTELSCOPE_GRPC_PORT" port)
      file.grpcPort usual.grpcPort
    httpPort := firstOf given.httpPort (fromEnvironment env "OTELSCOPE_HTTP_PORT" port)
      file.httpPort usual.httpPort
    uiPort := firstOf given.uiPort (fromEnvironment env "OTELSCOPE_UI_PORT" port)
      file.uiPort usual.uiPort
    staticDir := firstOf given.staticDir (fromEnvironment env "OTELSCOPE_STATIC_DIR" fileName)
      file.staticDir usual.staticDir
    level := firstOf Option.none Option.none file.level usual.level
    verbose := firstOf given.verbose (fromEnvironment env "OTELSCOPE_VERBOSE" bool) file.verbose
      usual.verbose
    debug := firstOf given.debug (fromEnvironment env "OTELSCOPE_DEBUG" bool) Option.none
      usual.debug }

/-- The read interface has a port, and no two listeners that are started have the same. -/
def IsStartable (c : Config) : Prop :=
  c.uiPort ≠ 0 ∧ [c.grpcPort, c.httpPort, c.uiPort].Pairwise fun a b => a = b → a = 0

instance (c : Config) : Decidable c.IsStartable :=
  inferInstanceAs (Decidable (_ ∧ _))

theorem clash_eq_false_iff {a b : UInt16} : clash a b = false ↔ (a = b → a = 0) := by
  rw [clash, Bool.and_eq_false_iff, bne_eq_false_iff_eq, beq_eq_false_iff_ne]
  constructor
  · exact fun h heq => h.resolve_right fun hne => hne heq
  · intro h
    by_cases heq : a = b
    · exact .inl (h heq)
    · exact .inr heq

/-- The pairs of ports that are compared are all pairs of ports. -/
theorem forall_portPairs_iff (c : Config) :
    (∀ pair ∈ c.portPairs, clash pair.1.2 pair.2.2 = false) ↔
      [c.grpcPort, c.httpPort, c.uiPort].Pairwise fun a b => a = b → a = 0 := by
  simp [portPairs, clash_eq_false_iff, and_assoc]

/-- A configuration is accepted as it is if it can be started, and only then. -/
theorem validate_eq_ok_iff {c c' : Config} : c.validate = .ok c' ↔ c.IsStartable ∧ c = c' := by
  unfold validate IsStartable
  rw [← forall_portPairs_iff]
  split
  · rename_i hui
    exact iff_of_false nofun fun h => h.1.1 hui
  split
  · rename_i nameA port nameB other hfind
    have hfound := List.find?_some hfind
    have hshared : clash port other = true := hfound
    refine iff_of_false nofun fun h => ?_
    rw [h.1.2 _ (List.mem_of_find?_eq_some hfind)] at hshared
    cases hshared
  · rename_i hui _ hnone
    have hclear : ∀ pair ∈ c.portPairs, clash pair.1.2 pair.2.2 = false := fun pair hpair =>
      Bool.not_eq_true _ ▸ List.find?_eq_none.mp hnone pair hpair
    exact ⟨fun h => ⟨⟨hui, hclear⟩, Except.ok.inj h⟩, fun h => congrArg Except.ok h.2⟩

theorem firstOf_eq {α : Type} (given fromVariable fromFile : Option α) (usual : α) :
    firstOf given fromVariable fromFile usual =
      (given.or fromVariable).getD (fromFile.getD usual) := by
  rw [firstOf, Option.getD_or]

/-- What the options say about printing comes before what the file says, unless it is that nothing
is to be printed. -/
theorem resolve_withEnvironment (given : Options) (env : String → Option String)
    (file : Settings) :
    (given.withEnvironment env).resolve file =
      { preferred given env file with
        verbose := (preferred given env file).verbose || file.verbose.getD false } := by
  have hflag (on : Option Bool) (below : Bool) :
      (on.filter fun b => b).getD below = (on.getD below || below) := by
    rcases on with _ | _ | _ <;> cases below <;> rfl
  simp only [Options.resolve, Options.withEnvironment, Options.settings, override, preferred,
    firstOf_eq, hflag]
  rfl

/-- The exception: printing is turned off by an environment variable only, and on by the file. -/
theorem preferred_verbose_eq_iff {given : Options} (hgiven : given.FlagsOn)
    (env : String → Option String) (file : Settings) :
    ((preferred given env file).verbose || file.verbose.getD false) =
        (preferred given env file).verbose ↔
      ¬ (given.verbose = Option.none ∧ env "OTELSCOPE_VERBOSE" = some "false" ∧
        file.verbose = some true) := by
  rw [← Options.fromEnvironment_bool_eq_off]
  have hcases : ∀ given fromVariable fromFile : Option Bool, given ≠ some false →
      ((firstOf given fromVariable fromFile false || fromFile.getD false) =
          firstOf given fromVariable fromFile false ↔
        ¬ (given = Option.none ∧ fromVariable = some false ∧ fromFile = some true)) := by
    decide
  exact hcases _ _ _ hgiven.verbose

end Config

namespace Options

/-- **The first source that gives a setting decides it**, but a flag that is off does not count.
Where the command line, the environment and the file can be read, a run gets a configuration if and
only if the one that they ask for can be started.  Ports, directory, level and debugging are as they
ask.  So is printing, unless it is the environment that turns it off while the file turns it on. -/
theorem load_of_sources {texts : List String} {env : String → Option String} {files : ConfigFiles}
    {given o : Options} {file : Settings} (hparse : parse texts = .ok given)
    (hread : read texts env = .ok o) (hfile : files.settings o = .ok file) :
    ((∃ c, o.load files = .ok c) ↔ (Config.preferred given env file).IsStartable) ∧
    ∀ c, o.load files = .ok c →
      { c with verbose := (Config.preferred given env file).verbose } =
        Config.preferred given env file ∧
      (c.verbose = (Config.preferred given env file).verbose ↔
        ¬ (given.verbose = Option.none ∧ env "OTELSCOPE_VERBOSE" = some "false" ∧
          file.verbose = some true)) := by
  have hload (c : Config) : o.load files = .ok c ↔
      (Config.preferred given env file).IsStartable ∧
        { Config.preferred given env file with
          verbose :=
            (Config.preferred given env file).verbose || file.verbose.getD false } = c := by
    have hvalidate : o.load files = (o.resolve file).validate := by
      rw [load, hfile]
      rfl
    rw [hvalidate, Config.validate_eq_ok_iff, ← read_eq_ok hparse hread,
      Config.resolve_withEnvironment]
    rfl
  refine ⟨⟨?_, fun h => ⟨_, (hload _).mpr ⟨h, rfl⟩⟩⟩, fun c hc => ?_⟩
  · rintro ⟨c, hc⟩
    exact ((hload c).mp hc).1
  · obtain ⟨-, rfl⟩ := (hload c).mp hc
    exact ⟨rfl, Config.preferred_verbose_eq_iff (flagsOn_of_parse_eq_ok hparse) env file⟩

/-- An environment with one variable. -/
def onlyVariable (name value : String) : String → Option String :=
  fun other => if other = name then some value else Option.none

/-- Every file that is named has the given text, and there is none in the user's directory. -/
def everyFile (text : String) : ConfigFiles :=
  ⟨fun _ => .ok text, Option.none⟩

/-- A file that asks for the port of the read interface does no harm if a variable asks for another
port. -/
theorem load_of_clashing_file : ∃ given o file,
    parse ["-c", "otelscope.yaml", "--grpc=0"] = .ok given ∧
    read ["-c", "otelscope.yaml", "--grpc=0"] (onlyVariable "OTELSCOPE_HTTP_PORT" "14318") =
      .ok o ∧
    (everyFile "server:\n  http_port: 8080\n").settings o = .ok file ∧
    ¬ (Config.usual.override file).IsStartable ∧
    ∃ c, o.load (everyFile "server:\n  http_port: 8080\n") = .ok c := by
  have hparse : parse ["-c", "otelscope.yaml", "--grpc=0"] =
      .ok { Options.none with grpcPort := some 0, config := some "otelscope.yaml" } := by
    decide
  have hread : read ["-c", "otelscope.yaml", "--grpc=0"]
      (onlyVariable "OTELSCOPE_HTTP_PORT" "14318") =
        .ok { Options.none with
          grpcPort := some 0, httpPort := some 14318, config := some "otelscope.yaml" } := by
    decide +kernel
  have hfile (o : Options) (ho : o.config = some "otelscope.yaml") :
      (everyFile "server:\n  http_port: 8080\n").settings o =
        .ok { Settings.none with httpPort := some 8080 } := by
    rw [ConfigFiles.settings, ConfigFiles.text, ho]
    decide +kernel
  refine ⟨_, _, _, hparse, hread, hfile _ rfl, by decide, ?_⟩
  refine (load_of_sources hparse hread (hfile _ rfl)).1.mpr ?_
  decide +kernel

/-- **A file that turns printing on has its way**, although the environment turns it off and comes
before it. -/
theorem verbose_off_loses : ∃ given o file c,
    parse ["-c", "otelscope.yaml"] = .ok given ∧
    read ["-c", "otelscope.yaml"] (onlyVariable "OTELSCOPE_VERBOSE" "false") = .ok o ∧
    (everyFile "logging:\n  verbose: true\n").settings o = .ok file ∧
    o.load (everyFile "logging:\n  verbose: true\n") = .ok c ∧
    (Config.preferred given (onlyVariable "OTELSCOPE_VERBOSE" "false") file).verbose = false ∧
    c.verbose = true := by
  refine ⟨{ Options.none with config := some "otelscope.yaml" },
    { Options.none with verbose := some false, config := some "otelscope.yaml" },
    { Settings.none with verbose := some true }, { Config.usual with verbose := true },
    ?_, ?_, ?_, ?_, ?_, rfl⟩
  · decide
  · decide +kernel
  · decide +kernel
  · decide +kernel
  · decide

end Options

end Telemetry
