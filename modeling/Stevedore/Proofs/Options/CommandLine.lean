import Stevedore.Options.Parse
/-!
# What a command line spells

A command line spells flags, each with a text. It is read from left to right, and a text that is an
argument of its own waits until the next flag. In the end the texts have been entered in order.

Main definitions:

- `Spells`: the flags of a command line with their texts.
- `enterAll`: texts entered for flags, one after another.
- `State.Step`: what reading one argument does.
- `IsGiven`: a flag stands on the command line.

Main results:

- Theorem `State.readAll_cons_eq_ok_iff`: the first argument is read by a step.
- Theorem `readAll_settle_iff`: a command line is read exactly if it spells flags with texts that can be
  entered in order, and this is what is given then.
- Theorem `Spells.unique`: a command line can be read in one way only.
- Theorem `Spells.isGiven_iff`: the flags that stand on a command line are those that it spells.
-/

namespace Stevedore.Options

/-! ## The kinds of arguments -/

/-- An argument that may be the value of the flag before it: a single hyphen, or one that does not
start with a hyphen. -/
def MayFollow (arg : String) : Prop := arg = "-" ∨ arg.toList.head? ≠ some '-'

/-- What the arguments of a kind look like. -/
def Argument.Describes : Argument → String → Prop
  | long name none, arg => arg = "--" ++ name
  | long name (some value), arg => arg = "--" ++ name ++ "=" ++ value
  | short c, arg => ∃ more, arg.toList = '-' :: c :: more
  | escape, arg => arg = "--"
  | plain, arg => MayFollow arg

/-- What an argument is taken for says how it is spelled. -/
theorem Argument.describes_of (arg : String) : (Argument.of arg).Describes arg := by
  fun_cases Argument.of arg with
  | case1 hchars => exact String.toList_inj.1 hchars
  | case2 chars _ hchars first value hrest =>
      have hfirst : first = '=' := by
        have hnot := List.head?_dropWhile_not (· != '=') chars
        rw [hrest] at hnot
        simpa using hnot
      have hwhole := List.takeWhile_append_dropWhile (p := (· != '=')) (l := chars)
      rw [hrest, hfirst] at hwhole
      apply String.toList_inj.1
      simp [hchars, hwhole]
  | case3 chars _ hchars hrest =>
      apply String.toList_inj.1
      simp [hchars]
  | case4 c more _ _ hchars => exact ⟨more, hchars⟩
  | case5 _ _ hshort =>
      change MayFollow arg
      cases hchars : arg.toList with
      | nil => exact .inr (by simp [hchars])
      | cons first more =>
          by_cases hfirst : first = '-'
          · subst hfirst
            cases more with
            | nil => exact .inl (String.toList_inj.1 hchars)
            | cons c more => exact absurd hchars (hshort c more)
          · exact .inr (by simp [hchars, hfirst])

theorem bne_equals_of_mem {name : String} (hname : '=' ∉ name.toList) :
    ∀ c ∈ name.toList, (c != '=') = true := by
  intro c hc
  rw [bne_iff_ne]
  rintro rfl
  exact hname hc

/-- A flag with its value behind an equals sign. -/
theorem Argument.of_long {name : String} (hname : '=' ∉ name.toList) (value : String) :
    Argument.of ("--" ++ name ++ "=" ++ value) = .long name (some value) := by
  have hchars : ("--" ++ name ++ "=" ++ value).toList =
      '-' :: '-' :: (name.toList ++ '=' :: value.toList) := by
    simp
  have hbefore := bne_equals_of_mem hname
  have htake : (name.toList ++ '=' :: value.toList).takeWhile (· != '=') = name.toList := by
    rw [List.takeWhile_append_of_pos hbefore]
    simp
  have hdrop : (name.toList ++ '=' :: value.toList).dropWhile (· != '=') = '=' :: value.toList := by
    rw [List.dropWhile_append_of_pos hbefore]
    simp
  have hne : name.toList ++ '=' :: value.toList ≠ [] := by
    simp
  obtain ⟨first, more, hcons⟩ := List.exists_cons_of_ne_nil hne
  unfold Argument.of
  rw [hchars]
  rw [hcons] at htake hdrop ⊢
  simp [htake, hdrop]

/-- A flag is found under its name, which is none of those that ask for a text. -/
theorem ofLong?_long (flag : Flag) :
    Flag.ofLong? flag.long = some flag ∧ '=' ∉ flag.long.toList ∧
      ¬ (flag.long = "help" ∨ flag.long = "version") := by
  cases flag <;> decide

/-- An option can be told from its name. -/
theorem long_injective {flag other : Flag} (h : flag.long = other.long) : flag = other := by
  have hfound := (ofLong?_long flag).1
  rw [h, (ofLong?_long other).1] at hfound
  exact (Option.some.inj hfound).symm

/-- A flag alone. -/
theorem Argument.of_name {name : String} (hname : '=' ∉ name.toList) (hne : name ≠ "") :
    Argument.of ("--" ++ name) = .long name none := by
  have hchars : ("--" ++ name).toList = '-' :: '-' :: name.toList := by
    simp
  have hbefore := bne_equals_of_mem hname
  have hdrop : name.toList.dropWhile (· != '=') = [] := by
    rw [← List.append_nil name.toList, List.dropWhile_append_of_pos hbefore]
    rfl
  have hcons : name.toList ≠ [] := mt String.toList_eq_nil_iff.1 hne
  obtain ⟨first, more, hfirst⟩ := List.exists_cons_of_ne_nil hcons
  have hback : String.ofList (first :: more) = name := by
    rw [← hfirst, String.ofList_toList]
  unfold Argument.of
  rw [hchars]
  rw [hfirst] at hdrop ⊢
  simp [hdrop, hback]

/-- Two hyphens and a name are a flag without value. -/
theorem Argument.of_flag (flag : Flag) : Argument.of ("--" ++ flag.long) = .long flag.long none := by
  have hne : flag.long ≠ "" := by
    cases flag <;> decide
  exact Argument.of_name (ofLong?_long flag).2.1 hne

/-- Two hyphens, a name, an equals sign and a text are a flag with this value. -/
theorem Argument.of_flag_with (flag : Flag) (value : String) :
    Argument.of ("--" ++ flag.long ++ "=" ++ value) = .long flag.long (some value) :=
  Argument.of_long (ofLong?_long flag).2.1 value

/-- A text that may follow a flag is no flag. -/
theorem Argument.of_mayFollow {arg : String} (h : MayFollow arg) : Argument.of arg = .plain := by
  rcases h with rfl | hfirst
  · rfl
  · cases hchars : arg.toList with
    | nil => simp [Argument.of, hchars]
    | cons first more =>
        have hne : first ≠ '-' := by
          rintro rfl
          exact hfirst (by rw [hchars]; rfl)
        simp [Argument.of, hchars, hne]

/-! ## One argument -/

/-- What reading one argument does. A text that has come for a flag is entered by the next argument
that is a flag itself. -/
inductive State.Step (s : State) : String → State → Prop where
  /-- A flag with its text. -/
  | attached {flag : Flag} {value : String} {given after : Given} (hsettle : s.settle = .ok given)
      (haccept : accept given flag value = .ok after) :
      State.Step s ("--" ++ flag.long ++ "=" ++ value) { given := after }
  /-- A flag alone. -/
  | named {flag : Flag} {given : Given} (hsettle : s.settle = .ok given) :
      State.Step s ("--" ++ flag.long) { given, pending := some { flag } }
  /-- The text for a flag that stands before it. -/
  | value {flag : Flag} {value : String} (hvalue : MayFollow value)
      (hpending : s.pending = some { flag }) :
      State.Step s value { s with pending := some ⟨flag, some value⟩ }

section Reading

variable {s t : State} {arg : String} {args : List String} {given after : Given}

theorem State.ask_ne_ok {text : Refusal} : s.ask text ≠ .ok t := by
  unfold State.ask
  split <;> exact nofun

/-- An argument with two hyphens that can be read is a flag. -/
theorem State.step_of_long {name : String} {value : Option String}
    (hdescribes : (Argument.long name value).Describes arg) (h : s.long name value = .ok t) :
    s.Step arg t := by
  unfold State.long at h
  split at h
  · split at h
    · contradiction
    · exact absurd h State.ask_ne_ok
  · split at h
    · contradiction
    · next flag hflag =>
      have hname := List.find?_some hflag
      obtain rfl := beq_iff_eq.1 hname
      split at h
      · contradiction
      · next given hsettle =>
        cases value with
        | none =>
            obtain rfl := Except.ok.inj h
            obtain rfl : arg = _ := hdescribes
            exact .named hsettle
        | some text =>
            obtain rfl : arg = _ := hdescribes
            dsimp only at h
            split at h
            · next after haccept =>
              obtain rfl := Except.ok.inj h
              exact .attached hsettle haccept
            · contradiction

/-- What is read of an argument is a step of it; apart from the escape there are only flags, with a
value or without, and values. -/
theorem State.step_of_read (hescape : Argument.of arg ≠ .escape) (h : s.read arg = .ok t) :
    s.Step arg t := by
  have hdescribes := Argument.describes_of arg
  unfold State.read at h
  split at h
  · next name value hof =>
    rw [hof] at hdescribes
    exact State.step_of_long hdescribes h
  · exact absurd h State.ask_ne_ok
  · exact absurd h State.ask_ne_ok
  · contradiction
  · next hlong _ _ hshort =>
    have hvalue : MayFollow arg := by
      cases hof : Argument.of arg with
      | long name value => exact absurd hof (hlong name value)
      | short c => exact absurd hof (hshort c)
      | escape => exact absurd hof hescape
      | plain => rwa [hof] at hdescribes
    split at h
    · next flag hpending =>
      obtain rfl := Except.ok.inj h
      exact .value hvalue hpending
    · contradiction

/-- What a step does is what reading does. -/
theorem State.Step.read (h : s.Step arg t) : Argument.of arg ≠ .escape ∧ s.read arg = .ok t := by
  unfold State.read
  cases h with
  | @attached flag value _ _ hsettle haccept =>
      obtain ⟨hfound, -, htext⟩ := ofLong?_long flag
      rw [Argument.of_flag_with flag value]
      simp [State.long, htext, hfound, hsettle, haccept]
  | @named flag _ hsettle =>
      obtain ⟨hfound, -, htext⟩ := ofLong?_long flag
      rw [Argument.of_flag flag]
      simp [State.long, htext, hfound, hsettle]
  | value hvalue hpending =>
      rw [Argument.of_mayFollow hvalue]
      simp [hpending]

/-- The first argument is read by a step; two hyphens alone end the command line. -/
theorem State.readAll_cons_eq_ok_iff :
    s.readAll (arg :: args) = .ok t ↔
      arg = "--" ∧ args = [] ∧ t = s ∨ ∃ u, s.Step arg u ∧ u.readAll args = .ok t := by
  rw [State.readAll]
  constructor
  · intro h
    split at h
    · next hescape =>
      have hdescribes := Argument.describes_of arg
      rw [hescape] at hdescribes
      split at h
      · next hempty => exact .inl ⟨hdescribes, List.isEmpty_iff.1 hempty, (Except.ok.inj h).symm⟩
      · contradiction
    · next hescape =>
      split at h
      · next u hread => exact .inr ⟨u, State.step_of_read hescape hread, h⟩
      · contradiction
  · rintro (⟨rfl, rfl, rfl⟩ | ⟨u, hstep, hrest⟩)
    · rfl
    · obtain ⟨hescape, hread⟩ := hstep.read
      rw [if_neg hescape, hread]
      exact hrest

end Reading

/-! ## The whole command line -/

/-- The flags of a command line with their texts, in order. A text stands behind an equals sign or is
the next argument. Two hyphens alone may end the command line. -/
inductive Spells : List String → List (Flag × String) → Prop where
  | nil : Spells [] []
  | escape : Spells ["--"] []
  | attached {args : List String} {line : List (Flag × String)} (flag : Flag) (value : String)
      (hrest : Spells args line) :
      Spells (("--" ++ flag.long ++ "=" ++ value) :: args) ((flag, value) :: line)
  | separate {args : List String} {line : List (Flag × String)} (flag : Flag) {value : String}
      (hvalue : MayFollow value) (hrest : Spells args line) :
      Spells (("--" ++ flag.long) :: value :: args) ((flag, value) :: line)

section Unique

variable {arg name value : String} {args : List String} {line other : List (Flag × String)}

/-- After the escape no option is spelled. -/
theorem Spells.of_escape (h : Spells (arg :: args) line) (hof : Argument.of arg = .escape) :
    line = [] := by
  cases h with
  | escape => rfl
  | attached flag value _ =>
      rw [Argument.of_flag_with] at hof
      contradiction
  | separate flag _ _ =>
      rw [Argument.of_flag] at hof
      contradiction

/-- A flag with a value spells the option with this value. -/
theorem Spells.of_attached (h : Spells (arg :: args) line)
    (hof : Argument.of arg = .long name (some value)) :
    ∃ flag more, flag.long = name ∧ line = (flag, value) :: more ∧ Spells args more := by
  cases h with
  | escape => contradiction
  | attached flag _ hrest =>
      rw [Argument.of_flag_with] at hof
      obtain ⟨hname, hvalue⟩ := Argument.long.inj hof
      obtain rfl := Option.some.inj hvalue
      exact ⟨flag, _, hname, rfl, hrest⟩
  | separate flag _ _ =>
      rw [Argument.of_flag] at hof
      exact absurd (Argument.long.inj hof).2 nofun

/-- A flag and the value after it spell the option with this value. -/
theorem Spells.of_separate (h : Spells (arg :: value :: args) line)
    (hof : Argument.of arg = .long name none) :
    ∃ flag more, flag.long = name ∧ line = (flag, value) :: more ∧ Spells args more := by
  cases h with
  | attached flag _ _ =>
      rw [Argument.of_flag_with] at hof
      exact absurd (Argument.long.inj hof).2 nofun
  | separate flag _ hrest =>
      rw [Argument.of_flag] at hof
      exact ⟨flag, _, (Argument.long.inj hof).1, rfl, hrest⟩

/-- A command line can be read in one way only: the kind of its first argument decides. -/
theorem Spells.unique (h : Spells args line) (h' : Spells args other) : line = other := by
  induction h generalizing other with
  | nil =>
      cases h'
      rfl
  | escape => exact (h'.of_escape rfl).symm
  | attached flag value _ ih =>
      obtain ⟨flag', more, hname, rfl, hrest⟩ := h'.of_attached (Argument.of_flag_with flag value)
      rw [long_injective hname, ih hrest]
  | separate flag _ _ ih =>
      obtain ⟨flag', more, hname, rfl, hrest⟩ := h'.of_separate (Argument.of_flag flag)
      rw [long_injective hname, ih hrest]

end Unique

/-- Enters texts for flags, one after another. -/
def enterAll (given : Given) : List (Flag × String) → Except Refusal Given
  | [] => .ok given
  | (flag, value) :: rest =>
    match accept given flag value with
    | .ok next => enterAll next rest
    | .error e => .error e

/-- Texts are entered one after the other. -/
theorem enterAll_cons_eq_ok_iff {given after : Given} {flag : Flag} {value : String}
    {line : List (Flag × String)} :
    enterAll given ((flag, value) :: line) = .ok after ↔
      ∃ next, accept given flag value = .ok next ∧ enterAll next line = .ok after := by
  rw [enterAll]
  cases accept given flag value with
  | ok next => simp
  | error e => simp

section Reading

variable {s t : State} {args : List String} {line : List (Flag × String)} {given after : Given}

/-- A flag that waits for its text has it in the next argument. -/
theorem State.readAll_of_awaiting {flag : Flag} (hpending : s.pending = some { flag })
    (hread : s.readAll args = .ok t) (hsettle : t.settle = .ok after) :
    ∃ value rest, args = value :: rest ∧ MayFollow value ∧
      State.readAll { s with pending := some ⟨flag, some value⟩ } rest = .ok t := by
  have hunsettled : s.settle = .error .missingValue := by
    unfold State.settle
    rw [hpending]
  cases args with
  | nil =>
      obtain rfl := Except.ok.inj hread
      rw [hunsettled] at hsettle
      contradiction
  | cons arg rest =>
      rcases State.readAll_cons_eq_ok_iff.1 hread with ⟨-, -, rfl⟩ | ⟨u, hstep, hrest⟩
      · rw [hunsettled] at hsettle
        contradiction
      · cases hstep with
        | attached hsettled _ => rw [hunsettled] at hsettled; contradiction
        | named hsettled => rw [hunsettled] at hsettled; contradiction
        | value hvalue hflag =>
            have hsame := Option.some.inj (hpending.symm.trans hflag)
            obtain rfl : flag = _ := congrArg Pending.flag hsame
            exact ⟨arg, rest, rfl, hvalue, hrest⟩

/-- What has been read is what the command line spells, entered in order. -/
theorem State.exists_spells_of_readAll {s : State} {args : List String}
    (hpending : ∀ flag, s.pending ≠ some { flag })
    (hread : s.readAll args = .ok t) (hsettle : t.settle = .ok after) :
    ∃ line given, Spells args line ∧ s.settle = .ok given ∧ enterAll given line = .ok after := by
  match args with
  | [] =>
      obtain rfl := Except.ok.inj hread
      exact ⟨[], after, .nil, hsettle, rfl⟩
  | arg :: args =>
      rcases State.readAll_cons_eq_ok_iff.1 hread with ⟨rfl, rfl, rfl⟩ | ⟨u, hstep, hrest⟩
      · exact ⟨[], after, .escape, hsettle, rfl⟩
      · cases hstep with
        | @attached flag value given next hsettled haccept =>
            obtain ⟨line, _, hspells, hnext, henters⟩ :=
              State.exists_spells_of_readAll (by simp) hrest hsettle
            obtain rfl := Except.ok.inj hnext
            exact ⟨_, given, .attached flag value hspells, hsettled,
              enterAll_cons_eq_ok_iff.2 ⟨next, haccept, henters⟩⟩
        | @named flag given hsettled =>
            obtain ⟨value, rest, rfl, hvalue, hrest⟩ :=
              State.readAll_of_awaiting rfl hrest hsettle
            obtain ⟨line, next, hspells, haccept, henters⟩ :=
              State.exists_spells_of_readAll (by simp) hrest hsettle
            exact ⟨_, given, .separate flag hvalue hspells, hsettled,
              enterAll_cons_eq_ok_iff.2 ⟨next, haccept, henters⟩⟩
        | value _ hflag => exact absurd hflag (hpending _)
termination_by args.length

/-- What a command line spells is read if it can be entered in order. The text of a flag may wait until
the next flag, so the induction is over all states that settle to the same values. -/
theorem State.readAll_of_spells (hspells : Spells args line) (hsettle : s.settle = .ok given)
    (henters : enterAll given line = .ok after) :
    ∃ t, s.readAll args = .ok t ∧ t.settle = .ok after := by
  induction hspells generalizing s given with
  | nil =>
      obtain rfl := Except.ok.inj henters
      exact ⟨s, rfl, hsettle⟩
  | escape =>
      obtain rfl := Except.ok.inj henters
      exact ⟨s, rfl, hsettle⟩
  | attached flag value _ ih =>
      obtain ⟨next, haccept, hrest⟩ := enterAll_cons_eq_ok_iff.1 henters
      obtain ⟨t, hread, ht⟩ := ih (s := { given := next }) rfl hrest
      exact ⟨t, State.readAll_cons_eq_ok_iff.2 (.inr ⟨_, .attached hsettle haccept, hread⟩), ht⟩
  | @separate _ _ flag value hvalue _ ih =>
      obtain ⟨next, haccept, hrest⟩ := enterAll_cons_eq_ok_iff.1 henters
      have hnamed : s.Step ("--" ++ flag.long) ⟨given, some { flag }⟩ := .named hsettle
      have htext : State.Step ⟨given, some { flag }⟩ value ⟨given, some ⟨flag, some value⟩⟩ :=
        .value hvalue rfl
      obtain ⟨t, hread, ht⟩ := ih (s := ⟨given, some ⟨flag, some value⟩⟩) haccept hrest
      have hlater := State.readAll_cons_eq_ok_iff.2 (.inr ⟨_, htext, hread⟩)
      exact ⟨t, State.readAll_cons_eq_ok_iff.2 (.inr ⟨_, hnamed, hlater⟩), ht⟩

/-- A command line is read exactly if it spells flags with texts that can be entered in order. -/
theorem readAll_settle_iff :
    (∃ t, ({} : State).readAll args = .ok t ∧ t.settle = .ok after) ↔
      ∃ line, Spells args line ∧ enterAll {} line = .ok after := by
  constructor
  · rintro ⟨t, hread, hsettle⟩
    obtain ⟨line, given, hspells, hgiven, henters⟩ :=
      State.exists_spells_of_readAll (by simp) hread hsettle
    obtain rfl := Except.ok.inj hgiven
    exact ⟨line, hspells, henters⟩
  · rintro ⟨line, hspells, henters⟩
    exact State.readAll_of_spells hspells rfl henters

end Reading

/-! ## The flags that are given -/

/-- An argument names a flag, alone or with its text. -/
def Names (arg : String) (flag : Flag) : Prop :=
  arg = "--" ++ flag.long ∨ ∃ value, arg = "--" ++ flag.long ++ "=" ++ value

/-- A flag is given if an argument names it. Where the command line cannot be read, any argument that
names the flag counts. -/
def IsGiven (args : List String) (flag : Flag) : Prop := ∃ arg ∈ args, Names arg flag

/-- An argument that names a flag names no other one. -/
theorem names_iff {arg : String} {given flag : Flag} {value : Option String}
    (h : Argument.of arg = .long given.long value) : Names arg flag ↔ flag = given := by
  constructor
  · rintro (rfl | ⟨text, rfl⟩)
    · rw [Argument.of_flag] at h
      exact long_injective (Argument.long.inj h).1
    · rw [Argument.of_flag_with] at h
      exact long_injective (Argument.long.inj h).1
  · rintro rfl
    have hdescribes := Argument.describes_of arg
    rw [h] at hdescribes
    cases value with
    | none => exact .inl hdescribes
    | some text => exact .inr ⟨text, hdescribes⟩

/-- An argument that is no flag names no option. -/
theorem not_names {arg : String} {flag : Flag}
    (h : ∀ name value, Argument.of arg ≠ .long name value) : ¬ Names arg flag := by
  rintro (rfl | ⟨text, rfl⟩)
  · exact h _ _ (Argument.of_flag flag)
  · exact h _ _ (Argument.of_flag_with flag text)

/-- An option is given by the first argument or by a later one. -/
theorem isGiven_cons {arg : String} {args : List String} {flag : Flag} :
    IsGiven (arg :: args) flag ↔ Names arg flag ∨ IsGiven args flag := by
  simp [IsGiven]

/-- The flags that are given are those that the command line spells. -/
theorem Spells.isGiven_iff {args : List String} {line : List (Flag × String)} (h : Spells args line)
    (flag : Flag) : IsGiven args flag ↔ flag ∈ line.map Prod.fst := by
  induction h with
  | nil => simp [IsGiven]
  | escape =>
      have hescape : ¬ Names "--" flag := not_names fun _ _ => nofun
      simp [IsGiven, hescape]
  | attached given value _ ih =>
      rw [isGiven_cons, names_iff (Argument.of_flag_with given value), ih, List.map_cons,
        List.mem_cons]
  | @separate _ _ given value hvalue _ ih =>
      have htext : ¬ Names value flag := not_names (by simp [Argument.of_mayFollow hvalue])
      rw [isGiven_cons, isGiven_cons, names_iff (Argument.of_flag given), ih, List.map_cons,
        List.mem_cons, or_iff_right htext]

end Stevedore.Options
