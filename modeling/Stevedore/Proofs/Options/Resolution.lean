import Mathlib.Data.List.Basic
import Stevedore.Proofs.Options.CommandLine
/-!
# The value of every option

The texts of an option are those that the command line gives for its flag. If it gives none, there is
the text of the option's own variable, and if that is not set, no text at all. The texts decide the
value of the option, and nothing else does.

Main definitions:

- `textsOf` and `textsFor`: the texts of an option on a command line, and with the environment.
- `Shows`: the value of an option is the one that its texts stand for.
- `Given.Holds`: texts of an option have been entered.

Main results:

- Theorem `enterAll_holds`: every text is entered for its own option, in order.
- Theorem `exists_enterAll`: texts that stand for a value can be entered.
- Theorems `parse_eq_ok_iff` and `parse_eq_ok_iff_of_spells`: the options of a command line in an
  environment.
-/

namespace Stevedore

namespace Options

/-! ## Texts and values -/

/-- The value that at most one text stands for, with a default for none. -/
def Chosen (read : String → Option α) (default : α) : List String → α → Prop
  | [], value => value = default
  | [text], value => read text = some value
  | _, _ => False

/-- An option has the value that its texts stand for. Public addresses come from all texts in order;
every other option has one text at most. -/
def Shows (o : Options) : Flag → List String → Prop
  | .listenAddress, texts =>
    Chosen SocketAddress.parse? defaultListenAddress texts o.listenAddress
  | .master, texts => Chosen (fun text => some (some text)) none texts o.master
  | .username, texts => Chosen (fun text => some (some text)) none texts o.username
  | .password, texts => Chosen (fun text => some (some text)) none texts o.password
  | .clusterNamespace, texts => Chosen some "default" texts o.clusterNamespace
  | .publicIps, texts => o.publicIps = texts.flatMap (Text.split ',')
  | .adapterVersion, texts => Chosen some programVersion texts o.adapterVersion
  | .teardownTimeout, texts => Chosen parseUInt64? 10 texts o.teardownTimeoutSecs
  | .pollInterval, texts => Chosen parseUInt64? 500 texts o.pollIntervalMillis

/-- The texts of an option have one value at most. -/
theorem Chosen.unique {read : String → Option α} {default a b : α} {texts : List String}
    (ha : Chosen read default texts a) (hb : Chosen read default texts b) : a = b := by
  match texts with
  | [] => exact Eq.trans ha (Eq.symm hb)
  | [text] => exact Option.some.inj (Eq.trans (Eq.symm ha) hb)
  | _ :: _ :: _ => exact ha.elim

/-- If an option has a text, it is the only one, and it stands for the value. -/
theorem Chosen.read_of_mem {read : String → Option α} {default a : α} {texts : List String}
    (h : Chosen read default texts a) {text : String} (hmem : text ∈ texts) :
    read text = some a ∧ texts = [text] := by
  match texts with
  | [only] =>
      obtain rfl := List.mem_singleton.1 hmem
      exact ⟨h, rfl⟩
  | _ :: _ :: _ => exact h.elim

/-- The texts leave no choice. -/
theorem Shows.unique {o o' : Options} {texts : Flag → List String}
    (h : ∀ flag, o.Shows flag (texts flag)) (h' : ∀ flag, o'.Shows flag (texts flag)) : o = o' := by
  obtain ⟨_, _, _, _, _, _, _, _, _⟩ := o
  obtain ⟨_, _, _, _, _, _, _, _, _⟩ := o'
  rw [Options.mk.injEq]
  exact ⟨Chosen.unique (h .listenAddress) (h' .listenAddress),
    Chosen.unique (h .master) (h' .master),
    Chosen.unique (h .username) (h' .username),
    Chosen.unique (h .password) (h' .password),
    Chosen.unique (h .clusterNamespace) (h' .clusterNamespace),
    Eq.trans (h .publicIps) (Eq.symm (h' .publicIps)),
    Chosen.unique (h .adapterVersion) (h' .adapterVersion),
    Chosen.unique (h .teardownTimeout) (h' .teardownTimeout),
    Chosen.unique (h .pollInterval) (h' .pollInterval)⟩

/-- An option that shows a text takes it. -/
theorem Shows.exists_enter {o : Options} {flag : Flag} {texts : List String} {text : String}
    (h : o.Shows flag texts) (hmem : text ∈ texts) (given : Given) :
    ∃ after, given.enter flag text = some after := by
  cases flag with
  | listenAddress | teardownTimeout | pollInterval =>
      simp [Given.enter, (Chosen.read_of_mem h hmem).1]
  | _ => exact ⟨_, rfl⟩

/-- An option that is not given more than once shows no other text beside one. -/
theorem Shows.eq_singleton {o : Options} {flag : Flag} {texts : List String} {text : String}
    (h : o.Shows flag texts) (hmem : text ∈ texts) (hrepeats : flag.repeats = false) :
    texts = [text] := by
  cases flag with
  | publicIps => contradiction
  | _ => exact (Chosen.read_of_mem h hmem).2

end Options

/-! ## Entering texts -/

namespace Given

open Options (Shows accept enterAll)

variable {given after : Given} {flag other : Flag} {text : String} {texts : List String}

/-- These texts were entered for an option: it has a value if there is one, and shows what they stand
for. -/
def Holds (given : Given) (flag : Flag) (texts : List String) : Prop :=
  (given.has flag = true ↔ texts ≠ []) ∧ given.toOptions.Shows flag texts

/-- At the start no text of an option has been entered. -/
theorem holds_nil (flag : Flag) : ({} : Given).Holds flag [] := by
  cases flag <;> exact ⟨by simp [has], rfl⟩

/-- A text is entered behind those that were entered before. -/
theorem Holds.enter (h : given.Holds flag texts) (hnew : (given.has flag && !flag.repeats) = false)
    (henter : given.enter flag text = some after) : after.Holds flag (texts ++ [text]) := by
  by_cases hflag : flag = .publicIps
  · subst hflag
    obtain rfl := Option.some.inj henter
    have hbefore : given.publicIps.getD [] = texts.flatMap (Text.split ',') := h.2
    refine ⟨by simp [has], ?_⟩
    change given.publicIps.getD [] ++ Text.split ',' text = _
    rw [hbefore, List.flatMap_append, List.flatMap_singleton]
  · have hrepeats : flag.repeats = false := beq_false_of_ne hflag
    have hunset : given.has flag = false := by
      simpa [hrepeats] using hnew
    obtain rfl : texts = [] := by
      by_contra hne
      rw [h.1.2 hne] at hunset
      contradiction
    cases flag with
    | publicIps => contradiction
    | listenAddress | teardownTimeout | pollInterval =>
        obtain ⟨value, hvalue, rfl⟩ := Option.map_eq_some_iff.1 henter
        exact ⟨by simp [has], hvalue⟩
    | _ =>
        obtain rfl := Option.some.inj henter
        exact ⟨by simp [has], rfl⟩

/-- A text that is entered for an option does not matter to another one. -/
theorem enter_other (hne : other ≠ flag) (henter : given.enter flag text = some after) :
    after.has other = given.has other ∧
      ∀ texts, after.toOptions.Shows other texts ↔ given.toOptions.Shows other texts := by
  cases flag with
  | listenAddress | teardownTimeout | pollInterval =>
      obtain ⟨value, -, rfl⟩ := Option.map_eq_some_iff.1 henter
      cases other <;> first | exact ⟨rfl, fun _ => Iff.rfl⟩ | contradiction
  | _ =>
      obtain rfl := Option.some.inj henter
      cases other <;> first | exact ⟨rfl, fun _ => Iff.rfl⟩ | contradiction

/-- A text that is entered for one option leaves the others as they were. -/
theorem Holds.enter_other (h : given.Holds other texts) (hne : other ≠ flag)
    (henter : given.enter flag text = some after) : after.Holds other texts := by
  obtain ⟨hhas, hshows⟩ := Given.enter_other hne henter
  exact ⟨hhas ▸ h.1, (hshows texts).2 h.2⟩

end Given

namespace Options

/-! ## The texts of an option -/

/-- The texts that a command line gives for a flag, in order. -/
def textsOf (line : List (Flag × String)) (flag : Flag) : List String :=
  (line.filter (·.1 = flag)).map (·.2)

/-- The texts that an option goes by: those that the command line gives for its flag; if there is
none, that of its variable, if it is set. -/
def textsFor (line : List (Flag × String)) (env : Environment) (flag : Flag) : List String :=
  if textsOf line flag = [] then (env flag.variableName).toList else textsOf line flag

theorem textsOf_append (line more : List (Flag × String)) (flag : Flag) :
    textsOf (line ++ more) flag = textsOf line flag ++ textsOf more flag := by
  simp [textsOf]

/-- An option has no texts exactly if it is not on the command line. -/
theorem textsOf_eq_nil_iff {line : List (Flag × String)} {flag : Flag} :
    textsOf line flag = [] ↔ flag ∉ line.map Prod.fst := by
  rw [textsOf, List.map_eq_nil_iff, List.filter_eq_nil_iff]
  constructor
  · intro hnone hmem
    obtain ⟨x, hx, rfl⟩ := List.mem_map.1 hmem
    exact hnone x hx (decide_eq_true rfl)
  · intro hnot x hx hflag
    exact hnot (of_decide_eq_true hflag ▸ List.mem_map_of_mem hx)

theorem textsOf_map (flag : Flag) (f : α → String) (xs : List α) :
    textsOf (xs.map fun x => (flag, f x)) flag = xs.map f := by
  have hall : ∀ x ∈ xs.map fun x => (flag, f x), decide (x.1 = flag) = true := by
    simp
  rw [textsOf, List.filter_eq_self.2 hall, List.map_map]
  rfl

theorem textsOf_self (flag : Flag) (text : String) : textsOf [(flag, text)] flag = [text] := by
  simp [textsOf]

theorem textsOf_other {flag other : Flag} (hne : other ≠ flag) (text : String) :
    textsOf [(flag, text)] other = [] := by
  simp [textsOf, Ne.symm hne]

/-- An option on the command line has its texts from there. -/
theorem textsFor_of_mem {line : List (Flag × String)} {flag : Flag}
    (h : flag ∈ line.map Prod.fst) (env : Environment) :
    textsFor line env flag = textsOf line flag :=
  if_neg fun hnil => textsOf_eq_nil_iff.1 hnil h

/-- An option that is not on the command line has its text from the environment, if there is one. -/
theorem textsFor_of_not_mem {line : List (Flag × String)} {flag : Flag}
    (h : flag ∉ line.map Prod.fst) (env : Environment) :
    textsFor line env flag = (env flag.variableName).toList :=
  if_pos (textsOf_eq_nil_iff.2 h)

/-! ## Entering texts one after another -/

section Entering

variable {given after : Given} {line : List (Flag × String)}

/-- A text is accepted exactly if its option may be entered again and the text stands for a
value. -/
theorem accept_eq_ok_iff {flag : Flag} {text : String} :
    accept given flag text = .ok after ↔
      (given.has flag && !flag.repeats) = false ∧ given.enter flag text = some after := by
  unfold accept
  split
  · next hrepeated => simp [hrepeated]
  · next hnew =>
    rw [Bool.not_eq_true] at hnew
    rw [hnew]
    cases given.enter flag text with
    | none => simp
    | some next => simp

/-- Entering one text adds it to those of its own option. -/
theorem accept_holds {flag other : Flag} {text : String} {texts : List String}
    (h : given.Holds other texts) (haccept : accept given flag text = .ok after) :
    after.Holds other (texts ++ textsOf [(flag, text)] other) := by
  obtain ⟨hnew, henter⟩ := accept_eq_ok_iff.1 haccept
  by_cases hother : other = flag
  · subst hother
    rw [textsOf_self]
    exact h.enter hnew henter
  · rw [textsOf_other hother, List.append_nil]
    exact h.enter_other hother henter

/-- Every text is entered for its own option, in order. -/
theorem enterAll_holds {flag : Flag} {texts : List String} (h : given.Holds flag texts)
    (henters : enterAll given line = .ok after) : after.Holds flag (texts ++ textsOf line flag) := by
  induction line generalizing given texts with
  | nil =>
      obtain rfl := Except.ok.inj henters
      rwa [textsOf, List.filter_nil, List.map_nil, List.append_nil]
  | cons first rest ih =>
      obtain ⟨next, haccept, hrest⟩ := enterAll_cons_eq_ok_iff.1 henters
      have hnext := ih (accept_holds h haccept) hrest
      rwa [List.append_assoc, ← textsOf_append] at hnext

/-- Texts can be entered if they stand for a value together with those that were entered before. -/
theorem exists_enterAll {o : Options} {before : Flag → List String}
    (hgiven : ∀ flag, given.Holds flag (before flag))
    (ho : ∀ flag ∈ line.map Prod.fst, o.Shows flag (before flag ++ textsOf line flag)) :
    ∃ after, enterAll given line = .ok after := by
  induction line generalizing given before with
  | nil => exact ⟨given, rfl⟩
  | cons first rest ih =>
      obtain ⟨flag, text⟩ := first
      have hsplit (other : Flag) : before other ++ textsOf ((flag, text) :: rest) other =
          before other ++ textsOf [(flag, text)] other ++ textsOf rest other := by
        rw [List.append_assoc, ← textsOf_append, List.singleton_append]
      have hshows := ho flag List.mem_cons_self
      rw [hsplit, textsOf_self] at hshows
      have hmem : text ∈ before flag ++ [text] ++ textsOf rest flag := by
        simp
      obtain ⟨next, henter⟩ := hshows.exists_enter hmem given
      have hnew : (given.has flag && !flag.repeats) = false := by
        cases hrepeats : flag.repeats with
        | true => simp
        | false =>
            have hlength := congrArg List.length (hshows.eq_singleton hmem hrepeats)
            have hnil : before flag = [] := by
              simp only [List.length_append, List.length_singleton] at hlength
              exact List.length_eq_zero_iff.1 (by omega)
            have hunset : ¬ given.has flag = true := fun h => (hgiven flag).1.1 h hnil
            simpa using hunset
      have haccept := accept_eq_ok_iff.2 ⟨hnew, henter⟩
      have hrest : ∀ other ∈ rest.map Prod.fst, o.Shows other
          (before other ++ textsOf [(flag, text)] other ++ textsOf rest other) := by
        intro other hother
        rw [← hsplit]
        exact ho other (List.mem_cons_of_mem _ hother)
      obtain ⟨after, henters⟩ := ih (fun other => accept_holds (hgiven other) haccept) hrest
      exact ⟨after, enterAll_cons_eq_ok_iff.2 ⟨next, haccept, henters⟩⟩

end Entering

/-! ## What the environment adds -/

/-- The variable of an option with its value, if the option was not given. -/
def setting (env : Environment) (given : Given) (flag : Flag) : List (Flag × String) :=
  if given.has flag then [] else (env flag.variableName).toList.map (flag, ·)

section Variables

variable {env : Environment} {given : Given} {flags : List Flag} {flag : Flag}

/-- The environment sets an option that was not given. -/
theorem mem_map_fst_setting {other : Flag} (h : other ∈ (setting env given flag).map Prod.fst) :
    other = flag ∧ given.has flag = false := by
  unfold setting at h
  split at h
  · contradiction
  · next hunset =>
    obtain ⟨_, hx, rfl⟩ := List.mem_map.1 h
    obtain ⟨_, -, rfl⟩ := List.mem_map.1 hx
    exact ⟨rfl, Bool.eq_false_iff.2 hunset⟩

/-- Of some options the environment sets those that were not given. -/
theorem mem_map_fst_settings {other : Flag}
    (h : other ∈ (flags.flatMap (setting env given)).map Prod.fst) :
    other ∈ flags ∧ given.has other = false := by
  obtain ⟨x, hx, rfl⟩ := List.mem_map.1 h
  obtain ⟨flag, hflag, hmem⟩ := List.mem_flatMap.1 hx
  obtain ⟨heq, hunset⟩ := mem_map_fst_setting (List.mem_map_of_mem hmem)
  rw [heq]
  exact ⟨hflag, hunset⟩

/-- An option that was not given has the text of its variable. -/
theorem textsOf_settings (hflags : flags.Nodup) (hmem : flag ∈ flags)
    (hunset : given.has flag = false) :
    textsOf (flags.flatMap (setting env given)) flag = (env flag.variableName).toList := by
  induction flags with
  | nil => contradiction
  | cons first rest ih =>
      obtain ⟨hfirst, hrest⟩ := List.nodup_cons.1 hflags
      rw [List.flatMap_cons, textsOf_append]
      by_cases heq : flag = first
      · subst heq
        have hnone : textsOf (rest.flatMap (setting env given)) flag = [] :=
          textsOf_eq_nil_iff.2 fun h => hfirst (mem_map_fst_settings h).1
        have hown : textsOf (setting env given flag) flag = (env flag.variableName).toList := by
          rw [setting, if_neg (Bool.eq_false_iff.1 hunset)]
          exact (textsOf_map flag id _).trans (List.map_id _)
        rw [hown, hnone, List.append_nil]
      · have hnone : textsOf (setting env given first) flag = [] :=
          textsOf_eq_nil_iff.2 fun h => heq (mem_map_fst_setting h).1
        rw [hnone, List.nil_append, ih hrest (List.mem_of_ne_of_mem heq hmem)]

/-- The environment enters the variables of the options that were not given. -/
theorem fromEnvironment_eq_enterAll (hflags : flags.Nodup) :
    fromEnvironment env given flags = enterAll given (flags.flatMap (setting env given)) := by
  induction flags generalizing given with
  | nil => rfl
  | cons first rest ih =>
      obtain ⟨hfirst, hrest⟩ := List.nodup_cons.1 hflags
      rw [fromEnvironment, List.flatMap_cons]
      cases hhas : given.has first with
      | true => simp [setting, hhas, ih hrest]
      | false =>
          cases hvalue : env first.variableName with
          | none => simp [setting, hhas, hvalue, ih hrest]
          | some value =>
              have hsetting : setting env given first = [(first, value)] := by
                simp [setting, hhas, hvalue]
              rw [hsetting, List.singleton_append, enterAll, if_neg Bool.false_ne_true]
              dsimp only
              cases haccept : accept given first value with
              | error e => rfl
              | ok next =>
                  have hsame : ∀ other ∈ rest, setting env next other = setting env given other := by
                    intro other hother
                    have hne : other ≠ first := fun h => hfirst (h ▸ hother)
                    obtain ⟨-, henter⟩ := accept_eq_ok_iff.1 haccept
                    rw [setting, setting, (Given.enter_other hne henter).1]
                  dsimp only
                  rw [ih hrest, List.flatMap_congr hsame]

end Variables

/-! ## The options of a command line in an environment -/

section Parsing

variable {args : List String} {env : Environment} {line : List (Flag × String)}

theorem nodup_all : Flag.all.Nodup := by
  decide

theorem mem_all (flag : Flag) : flag ∈ Flag.all := by
  cases flag <;> decide

/-- First what the command line spells is entered, then what the environment adds. -/
theorem parse_eq_ok_iff_enterAll {o : Options} :
    parse args env = .ok o ↔ ∃ line given after, Spells args line ∧ enterAll {} line = .ok given ∧
      enterAll given (Flag.all.flatMap (setting env given)) = .ok after ∧ after.toOptions = o := by
  unfold parse
  constructor
  · intro h
    split at h
    · contradiction
    · next s hread =>
      split at h
      · contradiction
      · next given hsettle =>
        split at h
        · contradiction
        · next after henv =>
          obtain ⟨line, hspells, henters⟩ := readAll_settle_iff.1 ⟨s, hread, hsettle⟩
          rw [fromEnvironment_eq_enterAll nodup_all] at henv
          exact ⟨line, given, after, hspells, henters, henv, Except.ok.inj h⟩
  · rintro ⟨line, given, after, hspells, henters, henv, rfl⟩
    obtain ⟨s, hread, hsettle⟩ := readAll_settle_iff.2 ⟨line, hspells, henters⟩
    rw [← fromEnvironment_eq_enterAll nodup_all] at henv
    simp only [hread, hsettle, henv]

/-- The texts of an option on the command line are what was entered for it. -/
theorem holds_of_spells {given : Given} (henters : enterAll {} line = .ok given) (flag : Flag) :
    given.Holds flag (textsOf line flag) :=
  enterAll_holds (Given.holds_nil flag) henters

/-- An option was given exactly if it is on the command line. -/
theorem has_iff {given : Given} (henters : enterAll {} line = .ok given) (flag : Flag) :
    given.has flag = true ↔ flag ∈ line.map Prod.fst := by
  rw [(holds_of_spells henters flag).1, ne_eq, textsOf_eq_nil_iff, not_not]

/-- The texts of an option after the environment has been looked at. -/
theorem textsOf_append_settings {given : Given} (henters : enterAll {} line = .ok given)
    (flag : Flag) :
    textsOf line flag ++ textsOf (Flag.all.flatMap (setting env given)) flag =
      textsFor line env flag := by
  have hhas := has_iff henters flag
  by_cases hmem : flag ∈ line.map Prod.fst
  · have hnone : textsOf (Flag.all.flatMap (setting env given)) flag = [] := by
      rw [textsOf_eq_nil_iff]
      intro hsetting
      rw [(mem_map_fst_settings hsetting).2] at hhas
      exact Bool.false_ne_true (hhas.2 hmem)
    rw [hnone, List.append_nil, textsFor_of_mem hmem]
  · have hunset : given.has flag = false := Bool.eq_false_iff.2 (mt hhas.1 hmem)
    rw [textsOf_eq_nil_iff.2 hmem, List.nil_append, textsFor_of_not_mem hmem,
      textsOf_settings nodup_all (mem_all flag) hunset]

/-- What has been entered from the command line and the environment shows the texts of every
option. -/
theorem shows_of_enterAll {given after : Given} (hgiven : enterAll {} line = .ok given)
    (hafter : enterAll given (Flag.all.flatMap (setting env given)) = .ok after) (flag : Flag) :
    after.toOptions.Shows flag (textsFor line env flag) := by
  have hholds := enterAll_holds (holds_of_spells hgiven flag) hafter
  rw [textsOf_append_settings hgiven] at hholds
  exact hholds.2

/-- The options are those that show what their texts stand for: the texts that the command line gives
for the flag, otherwise that of the variable, otherwise none. -/
theorem parse_eq_ok_iff {o : Options} :
    parse args env = .ok o ↔
      ∃ line, Spells args line ∧ ∀ flag, o.Shows flag (textsFor line env flag) := by
  constructor
  · intro h
    obtain ⟨line, given, after, hspells, hgiven, hafter, rfl⟩ := parse_eq_ok_iff_enterAll.1 h
    exact ⟨line, hspells, shows_of_enterAll hgiven hafter⟩
  · rintro ⟨line, hspells, hshows⟩
    have hline : ∀ flag ∈ line.map Prod.fst, o.Shows flag ([] ++ textsOf line flag) := by
      intro flag hflag
      rw [List.nil_append, ← textsFor_of_mem hflag env]
      exact hshows flag
    obtain ⟨given, hgiven⟩ := exists_enterAll Given.holds_nil hline
    have hsettings : ∀ flag ∈ (Flag.all.flatMap (setting env given)).map Prod.fst,
        o.Shows flag
          (textsOf line flag ++ textsOf (Flag.all.flatMap (setting env given)) flag) := by
      intro flag _
      rw [textsOf_append_settings hgiven]
      exact hshows flag
    obtain ⟨after, hafter⟩ := exists_enterAll (holds_of_spells hgiven) hsettings
    refine parse_eq_ok_iff_enterAll.2 ⟨line, given, after, hspells, hgiven, hafter, ?_⟩
    exact Shows.unique (shows_of_enterAll hgiven hafter) hshows

/-- A command line that is spelled properly has exactly the options that its texts show. -/
theorem parse_eq_ok_iff_of_spells (hspells : Spells args line) {o : Options} :
    parse args env = .ok o ↔ ∀ flag, o.Shows flag (textsFor line env flag) := by
  rw [parse_eq_ok_iff]
  constructor
  · rintro ⟨other, hother, hshows⟩
    rwa [hspells.unique hother]
  · exact fun hshows => ⟨line, hspells, hshows⟩

end Parsing

end Options

end Stevedore
