import SmartAccount.Cli.Grammar
/-!
# Reading a command line

What the reader of command lines does with one more word, for any grammar: a word that does not
look like an option names a command or is a value (`Cursor.read_word`), and two words that are an
option and its value wait to be checked (`Cursor.read_option`). By induction, options with values
that a command accepts are all taken (`Cursor.read_options`), and so are the values of a command
(`Cursor.read_values`).

The value of an option is checked when the next option of its command is read, or at the end. What
is kept along the options is therefore what the options of the command come to once the last of them
is settled, and not the options as they stand.
-/

namespace SmartAccount.Cli

/-- Options with their values, each in two words. -/
def optionWords (options : List (String × String)) : List String :=
  options.flatMap fun o => ["--" ++ o.1, o.2]

/-- Whether an option and its value are taken by a command that knows these options. -/
def takes (known : List OptionSpec) (o : String × String) : Bool :=
  !isOptionLike o.2 && (known.find? (·.name = o.1)).any fun spec =>
    spec.takesValue && spec.accepts o.2

/-- Options that a command takes in a row: it takes each of them, and none is given twice. -/
def TakesAll (known : List OptionSpec) (options : List (String × String)) : Prop :=
  (∀ o ∈ options, takes known o = true) ∧ (options.map (·.1)).Nodup

instance (known : List OptionSpec) (options : List (String × String)) :
    Decidable (TakesAll known options) :=
  inferInstanceAs (Decidable (_ ∧ _))

/-- An option whose name can be read. The names of the options that ask for help or for the version
cannot be had by others. -/
def OptionSpec.isReadable (spec : OptionSpec) : Bool :=
  spec.name ≠ "" && '=' ∉ spec.name.toList && spec.name ≠ helpWord && spec.name ≠ "version"

/-! ## Options of one command -/

theorem Given.add_of_new {g : Given} {spec : OptionSpec} {value : String}
    (haccepts : spec.accepts value = true) (hnew : spec.name ∉ g.values.map (·.1)) :
    g.add spec value = .ok { g with values := g.values ++ [(spec.name, value)] } := by
  have hany : g.values.any (·.1 = spec.name) = false := by
    rw [List.any_eq_false]
    intro o ho heq
    exact hnew (List.mem_map.mpr ⟨o, ho, of_decide_eq_true heq⟩)
  unfold add
  rw [haccepts, hany, Bool.and_false]
  rfl

namespace Cursor

variable {environment : String → Option String} {c : Cursor}

/-! ## One step of reading -/

/-- A word that does not look like an option is taken as what the command expects. -/
theorem read_word {w : String} {c' : Cursor} (hplain : isOptionLike w = false)
    (hhelp : c.isHelp w = false) (hword : c.word w = .ok c') (rest : List String) :
    c.read environment (w :: rest) = c'.read environment rest := by
  rw [read]
  -- the first three forms of a word are those that look like an option
  split
  next heq =>
    rw [isOptionLike, heq] at hplain
    cases hplain
  next long _ heq =>
    rw [isOptionLike, heq] at hplain
    cases hplain
  next letter tail _ _ heq =>
    rw [isOptionLike, heq] at hplain
    cases hplain
  next =>
    rw [hhelp, hword]
    rfl

theorem splitOption_of_not_mem {long : List Char} (h : '=' ∉ long) :
    splitOption long = (String.ofList long, none) := by
  have hne : ∀ c ∈ long, (c ≠ '=' : Bool) = true := by
    intro c hc
    rw [decide_eq_true_eq]
    rintro rfl
    exact h hc
  have htake : (long ++ []).takeWhile (· ≠ '=') = long ++ [] := List.takeWhile_append_of_pos hne
  have hdrop : (long ++ []).dropWhile (· ≠ '=') = [] := List.dropWhile_append_of_pos hne
  rw [List.append_nil] at htake hdrop
  unfold splitOption
  rw [htake, hdrop]

/-- An option with its value in the next word waits to be checked; the one before it is checked. -/
theorem read_option {spec : OptionSpec} {value : String} {g : Given}
    (hreadable : spec.isReadable = true)
    (hknown : c.given.known.find? (·.name = spec.name) = some spec)
    (hvalue : spec.takesValue = true) (hplain : isOptionLike value = false)
    (hsettle : c.given.settle = .ok g) (rest : List String) :
    c.read environment (("--" ++ spec.name) :: value :: rest)
      = ({ c with given := { g with pending := some (spec, value) } } : Cursor).read environment
          rest := by
  simp only [OptionSpec.isReadable, Bool.and_eq_true, decide_eq_true_eq] at hreadable
  obtain ⟨⟨⟨hname, hequals⟩, hhelp⟩, hversion⟩ := hreadable
  have hsplit := splitOption_of_not_mem hequals
  rw [String.ofList_toList] at hsplit
  have hlist : ("--" ++ spec.name).toList = '-' :: '-' :: spec.name.toList := by
    rw [String.toList_append]
    rfl
  have hlong : spec.name.toList ≠ [] := by
    intro hnil
    apply hname
    rw [← String.ofList_toList (s := spec.name), hnil]
  obtain ⟨d, ds, hds⟩ := List.exists_cons_of_ne_nil hlong
  rw [hds] at hsplit hlist
  rw [read, hlist]
  simp only [hsplit, hhelp, hversion, hknown, hsettle, hvalue, hplain, bind, Except.bind,
    Option.isNone_none, decide_false, Bool.and_false, Bool.false_and, Bool.false_eq_true, if_false]

/-! ## Runs of options and values -/

/-- Options that a command takes are read one after the other: once the last of them is settled,
they stand behind those that were given before. -/
theorem read_options {known : List OptionSpec} {options : List (String × String)}
    (hreadable : ∀ spec ∈ known, spec.isReadable = true)
    (htakes : ∀ o ∈ options, takes known o = true) (before : List (String × String))
    (hnodup : ((before ++ options).map (·.1)).Nodup) (hknown : c.given.known = known)
    (hsettle : c.given.settle = .ok ⟨known, before, none⟩) (rest : List String) :
    ∃ g : Given, g.known = known ∧ g.settle = .ok ⟨known, before ++ options, none⟩
      ∧ c.read environment (optionWords options ++ rest)
        = ({ c with given := g } : Cursor).read environment rest := by
  induction options generalizing before c with
  | nil =>
    rw [List.append_nil]
    exact ⟨c.given, hknown, hsettle, rfl⟩
  | cons o options ih =>
    obtain ⟨name, value⟩ := o
    -- the command knows the option, takes its value and has not been given it before
    have ho := htakes (name, value) List.mem_cons_self
    rw [takes, Bool.and_eq_true, Bool.not_eq_true', Option.any_eq_true] at ho
    obtain ⟨hplain, spec, hfind, hspec⟩ := ho
    rw [Bool.and_eq_true] at hspec
    have hname : spec.name = name := of_decide_eq_true (List.find?_some hfind :)
    subst hname
    have hnew : spec.name ∉ before.map (·.1) := by
      rw [List.map_append, List.nodup_append] at hnodup
      intro hmem
      exact hnodup.2.2 _ hmem _ List.mem_cons_self rfl
    -- the option waits behind those before it, and is settled as the last of them
    have hwaiting : ({ known := known, values := before, pending := some (spec, value) }
        : Given).settle = .ok ⟨known, before ++ [(spec.name, value)], none⟩ :=
      Given.add_of_new (g := ⟨known, before, none⟩) hspec.2 hnew
    obtain ⟨g, hgknown, hgsettle, hread⟩ := ih
      (c := { c with given := ⟨known, before, some (spec, value)⟩ })
      (fun other hother => htakes other (List.mem_cons_of_mem _ hother))
      (before ++ [(spec.name, value)]) (by rwa [List.append_assoc, List.singleton_append]) rfl
      hwaiting
    refine ⟨g, hgknown, ?_, ?_⟩
    · rwa [List.append_assoc, List.singleton_append] at hgsettle
    · rw [← hread]
      exact read_option (hreadable spec (List.mem_of_find?_eq_some hfind)) (hknown ▸ hfind)
        hspec.1 hplain hsettle _

/-- Values that a command accepts are taken to the last word, if it takes any number of them. -/
theorem read_values {options : List OptionSpec} {spec : ValueSpec}
    (hleaf : c.grammar = .leaf options spec) (hmany : spec.maximum = none) {texts : List String}
    (htexts : ∀ text ∈ texts, isOptionLike text = false ∧ spec.accepts text = true) :
    c.read environment texts
      = ({ c with values := c.values ++ texts } : Cursor).finish environment := by
  induction texts generalizing c with
  | nil =>
    rw [List.append_nil]
    rfl
  | cons text texts ih =>
    obtain ⟨hplain, haccepts⟩ := htexts text List.mem_cons_self
    have hword : c.word text = .ok { c with values := c.values ++ [text] } := by
      simp only [word, take, hleaf, haccepts, hmany, Option.all_none, Bool.and_self, if_true]
    have hhelp : c.isHelp text = false := by
      rw [isHelp, hleaf]
    have hrest := ih (c := { c with values := c.values ++ [text] }) hleaf
      fun other h => htexts other (List.mem_cons_of_mem _ h)
    rw [read_word hplain hhelp hword, hrest, List.append_assoc, List.singleton_append]

/-- A command line ends well when the options of all its commands do. -/
theorem finish_leaf {options : List OptionSpec} {spec : ValueSpec}
    (hleaf : c.grammar = .leaf options spec) (hmany : spec.minimum ≤ c.values.length)
    {levels : List Given} (hsettle : (c.given :: c.outer).mapM Given.settle = .ok levels)
    (hcomplete : ∀ level ∈ levels, level.isComplete environment = true) :
    c.finish environment = .ok ⟨c.path, levels, c.values⟩ := by
  have hall : levels.all (·.isComplete environment) = true := List.all_eq_true.mpr hcomplete
  simp only [finish, hsettle, hleaf, hmany, hall, bind, Except.bind, decide_true, Bool.and_self,
    if_true]

/-! ## Whole commands -/

/-- The options of a group and the name of one of its commands lead into the command. What the
options come to is settled at the end. -/
theorem read_command (environment : String → Option String) {known : List OptionSpec}
    (hreadable : ∀ spec ∈ known, spec.isReadable = true)
    {options : List (String × String)} (htakes : TakesAll known options)
    (hgiven : c.given = ⟨known, [], none⟩) {own : List OptionSpec}
    {commands : List (String × Grammar)} (hgroup : c.grammar = .group own commands)
    (name : String) (hplain : isOptionLike name = false) (hhelp : name ≠ helpWord)
    {command : Grammar} (hfind : commands.find? (·.1 = name) = some (name, command))
    (rest : List String) :
    ∃ g : Given, g.settle = .ok ⟨known, options, none⟩
      ∧ c.read environment (optionWords options ++ name :: rest)
        = ({ grammar := command
             given := { known := command.options ++ known.filter (·.isGlobal) }
             path := c.path ++ [name]
             outer := g :: c.outer } : Cursor).read environment rest := by
  obtain ⟨g, hknown, hsettle, hread⟩ := read_options hreadable htakes.1 [] htakes.2
    (by rw [hgiven]) (by rw [hgiven]; rfl) (name :: rest)
  refine ⟨g, hsettle, ?_⟩
  rw [hread]
  refine read_word hplain ?_ ?_ rest
  · rw [isHelp, hgroup]
    exact decide_eq_false hhelp
  · simp only [word, enter, hgroup, hfind, hknown]

/-- The options of a command that takes any number of values, its values, and the end. -/
theorem read_leaf {known : List OptionSpec} (hreadable : ∀ spec ∈ known, spec.isReadable = true)
    {options : List (String × String)} (htakes : TakesAll known options)
    (hgiven : c.given = ⟨known, [], none⟩) {own : List OptionSpec} {spec : ValueSpec}
    (hleaf : c.grammar = .leaf own spec) (hmany : spec.maximum = none) {texts : List String}
    (htexts : ∀ text ∈ texts, isOptionLike text = false ∧ spec.accepts text = true)
    (henough : spec.minimum ≤ (c.values ++ texts).length) {levels : List Given}
    (houter : c.outer.mapM Given.settle = .ok levels)
    (hcomplete : ∀ level ∈ (⟨known, options, none⟩ : Given) :: levels,
      level.isComplete environment = true) :
    c.read environment (optionWords options ++ texts)
      = .ok ⟨c.path, ⟨known, options, none⟩ :: levels, c.values ++ texts⟩ := by
  obtain ⟨g, -, hsettle, hread⟩ := read_options hreadable htakes.1 [] htakes.2
    (by rw [hgiven]) (by rw [hgiven]; rfl) texts
  have hlevels : (g :: c.outer).mapM Given.settle = .ok (⟨known, options, none⟩ :: levels) := by
    rw [List.mapM_cons, hsettle, houter]
    rfl
  rw [hread, read_values (c := { c with given := g }) hleaf hmany htexts]
  exact finish_leaf (c := { c with given := g, values := c.values ++ texts }) hleaf henough
    hlevels hcomplete

end Cursor

/-- Options may be missing where none of them is required and the environment says nothing wrong in
their place. -/
theorem Given.isComplete_of_accepted {environment : String → Option String} {g : Given}
    (hoptional : ∀ spec ∈ g.known, spec.isRequired = false)
    (haccepted : ∀ spec ∈ g.known, ∀ value,
      (spec.environment >>= environment) = some value → spec.accepts value = true) :
    g.isComplete environment = true := by
  unfold isComplete
  rw [List.all_eq_true]
  intro spec hspec
  rw [Bool.or_eq_true]
  refine .inr ?_
  split
  next value hvalue => exact haccepted spec hspec value hvalue
  next => rw [hoptional spec hspec, Bool.not_false]

end SmartAccount.Cli
