import Stevedore.Proofs.Exposure.Routing
import Stevedore.Proofs.Lifecycle.Requests
import Stevedore.Proofs.Options.Resolution
import Stevedore.Proofs.Text.Blank
/-!
# Public addresses

Public addresses come in groups, one for each time that the flag is given, or all in one variable of
the environment. However they are grouped, the configuration has every address that is not blank, in
order and as often as it was given, and all network services are reached at exactly these.

Main definitions:

- `Options.addresses`: the addresses that the pieces of a list stand for.
- `NetworkService.ReachedAt`: the addresses that a network service is reached at.

Main results:

- Theorem `Options.parse_of_publicIps`: the options where only public addresses are given.
- Theorems `Options.parse_publicIpsArguments` and `Options.parse_publicIpsVariable`: the options, with
  flags and with the variable.
- Theorem `Options.publicIps_of_groups`: the addresses, wherever they come from, and where they go.
-/

namespace Stevedore

open Backend Cluster

/-! ## Where the addresses go -/

/-- A network service is reached from outside at these addresses; it says nothing if there are
none. -/
def Cluster.NetworkService.ReachedAt (v : NetworkService) (ips : List String) : Prop :=
  ∃ spec, v.spec = some spec ∧ spec.externalIps = if ips = [] then none else some ips

/-- Every network service of a batch is reached at the addresses that it was resolved with. -/
theorem Exposure.reachedAt_of_resolve {ips : List String} {batch : List Service}
    {services : List NetworkService} (h : resolve ips batch = .ok services) :
    ∀ v ∈ services, v.ReachedAt ips := by
  intro v hv
  obtain ⟨added, -, -, rfl⟩ := resolve_eq_ok h
  obtain ⟨x, -, rfl⟩ := List.mem_map.1 hv
  obtain ⟨-, _, _, hspec, -⟩ := networkService_carries ips x.1 x.2
  exact ⟨_, hspec, rfl⟩

/-- On every backend, the network services that are created for a batch are reached at the addresses
of the configuration. -/
theorem Lifecycle.reachedAt_of_create {config : Config} {batch : List Service}
    {handler : Handler σ} {s : σ} {x : Exchange}
    (hx : x ∈ (create config batch).transcript handler s) {v : NetworkService}
    (hcall : x.call = .createService v) : v.ReachedAt config.externalIps := by
  obtain ⟨services, hresolve, ⟨u, hu, hcreate⟩ | ⟨b, hb⟩ | ⟨selector, hlist⟩⟩ := call_of_create hx
  · obtain rfl : u = v := Call.createService.inj (hcreate.symm.trans hcall)
    exact Exposure.reachedAt_of_resolve hresolve u hu
  · rw [hb] at hcall
    contradiction
  · rw [hlist] at hcall
    contradiction

namespace Options

/-! ## What the pieces of a list stand for -/

/-- The pieces without the blanks around them, except where that leaves nothing. -/
def addresses (texts : List String) : List String :=
  (texts.map Text.trim).filter fun ip => ip ≠ ""

/-- The external addresses are those in the groups of the option. -/
theorem externalIps_eq_addresses (o : Options) : o.externalIps = addresses o.publicIps := by
  unfold externalIps addresses
  congr 1
  funext ip
  rw [Bool.eq_iff_iff]
  simp

/-- An address of comma-free pieces is not empty, has no blank at either end and no comma. -/
theorem proper_of_mem_addresses {texts : List String} (htexts : ∀ s ∈ texts, ',' ∉ s.toList)
    {ip : String} (hip : ip ∈ addresses texts) :
    ip ≠ "" ∧ Text.Trimmed ip.toList ∧ ',' ∉ ip.toList := by
  obtain ⟨hmem, hne⟩ := List.mem_filter.1 hip
  obtain ⟨s, hs, rfl⟩ := List.mem_map.1 hmem
  have hchars : (Text.trim s).toList = Text.trimChars s.toList := String.toList_ofList
  obtain ⟨htrimmed, before, after, hsplit, -⟩ := (Text.trimChars_eq_iff s.toList _).1 rfl
  rw [hchars]
  refine ⟨of_decide_eq_true hne, htrimmed, fun hcomma => htexts s hs ?_⟩
  rw [hsplit]
  exact List.mem_append_left _ (List.mem_append_right _ hcomma)

/-- Texts that are put into one list are what the pieces of the list stand for. The list of no texts
is empty and has one piece, which is empty too. -/
theorem addresses_split {texts : List String} (htexts : ∀ s ∈ texts, ',' ∉ s.toList) :
    addresses (Text.split ',' (",".intercalate texts)) = addresses texts := by
  by_cases hnil : texts = []
  · subst hnil
    rfl
  · exact congrArg addresses (Text.split_intercalate hnil htexts)

/-! ## How addresses are given -/

/-- The argument that gives a group of addresses. -/
def publicIpsArgument (group : List String) : String := "--public-ips=" ++ ",".intercalate group

/-- A group of pieces that a text can hold: there is at least one, and none has a comma. -/
def Separable (group : List String) : Prop := group ≠ [] ∧ ∀ s ∈ group, ',' ∉ s.toList

section Groups

variable {groups : List (List String)} {env : Environment}

/-- Every group is the text of a flag. -/
theorem spells_publicIpsArguments (groups : List (List String)) :
    Spells (groups.map publicIpsArgument)
      (groups.map fun group => (.publicIps, ",".intercalate group)) := by
  induction groups with
  | nil => exact .nil
  | cons group rest ih => exact .attached .publicIps (",".intercalate group) ih

/-- Where nothing else is given, all options but the public addresses have their defaults. -/
theorem parse_of_publicIps {args : List String} {line : List (Flag × String)}
    (hspells : Spells args line) (hline : ∀ flag ∈ line.map Prod.fst, flag = .publicIps)
    (hothers : ∀ flag : Flag, flag ≠ .publicIps → env flag.variableName = none) :
    parse args env = .ok { publicIps := (textsFor line env .publicIps).flatMap (Text.split ',') } := by
  refine (parse_eq_ok_iff_of_spells hspells).2 fun flag => ?_
  by_cases hflag : flag = .publicIps
  · subst hflag
    rfl
  · rw [textsFor_of_not_mem (mt (hline flag) hflag), hothers flag hflag]
    cases flag <;> first | exact absurd rfl hflag | rfl

/-- The options of a command line that gives groups of public addresses. What the variable says
about them counts only if there is no group. -/
theorem parse_publicIpsArguments (hgroups : ∀ group ∈ groups, Separable group)
    (hothers : ∀ flag : Flag, flag ≠ .publicIps → env flag.variableName = none)
    (hnone : groups = [] → env Flag.publicIps.variableName = none) :
    parse (groups.map publicIpsArgument) env = .ok { publicIps := groups.flatten } := by
  have hline : ∀ flag ∈ (groups.map fun group => (Flag.publicIps, ",".intercalate group)).map
      Prod.fst, flag = .publicIps := by
    simp
  have htexts : textsFor (groups.map fun group => (.publicIps, ",".intercalate group)) env
      .publicIps = groups.map fun group => ",".intercalate group := by
    cases groups with
    | nil => rw [textsFor_of_not_mem (by simp), hnone rfl]; rfl
    | cons group rest => rw [textsFor_of_mem (by simp), textsOf_map]
  have hsplit : ∀ group ∈ groups, Text.split ',' (",".intercalate group) = group := fun group h =>
    Text.split_intercalate (hgroups group h).1 (hgroups group h).2
  rw [parse_of_publicIps (spells_publicIpsArguments groups) hline hothers, htexts, List.flatMap_map,
    List.flatMap_congr hsplit, List.flatMap_id']

/-- The options of a command line without arguments, where only the variable is set. -/
theorem parse_publicIpsVariable {value : String}
    (hothers : ∀ flag : Flag, flag ≠ .publicIps → env flag.variableName = none)
    (hset : env Flag.publicIps.variableName = some value) :
    parse [] env = .ok { publicIps := Text.split ',' value } := by
  rw [parse_of_publicIps .nil nofun hothers, textsFor_of_not_mem List.not_mem_nil, hset,
    Option.toList_some, List.flatMap_singleton]

/-- However pieces are grouped, giving each group as an argument of its own or all pieces in the
variable parses, and the configuration has the same addresses: those of all pieces in order. Each
is not empty, has no blank at either end and no comma. With such a configuration every network
service of a batch is reached at exactly these addresses, as it is resolved and as it is created on
any backend. -/
theorem publicIps_of_groups (hgroups : ∀ group ∈ groups, Separable group)
    (hothers : ∀ flag : Flag, flag ≠ .publicIps → env flag.variableName = none) :
    let ips := addresses groups.flatten
    ((groups = [] → env "SERVICE_PUBLIC_IPS" = none) →
      ∃ o, parse (groups.map publicIpsArgument) env = .ok o ∧ o.config.externalIps = ips) ∧
    (env "SERVICE_PUBLIC_IPS" = some (",".intercalate groups.flatten) →
      ∃ o, parse [] env = .ok o ∧ o.config.externalIps = ips) ∧
    (∀ ip ∈ ips, ip ≠ "" ∧ Text.Trimmed ip.toList ∧ ',' ∉ ip.toList) ∧
    ∀ (config : Config) (batch : List Service), config.externalIps = ips →
      (∀ services, Exposure.resolve config.externalIps batch = .ok services →
        ∀ v ∈ services, v.ReachedAt ips) ∧
      ∀ (σ : Type) (handler : Handler σ) (s : σ),
        ∀ x ∈ (Lifecycle.create config batch).transcript handler s,
          ∀ v, x.call = .createService v → v.ReachedAt ips := by
  intro ips
  have hcommas : ∀ s ∈ groups.flatten, ',' ∉ s.toList := by
    intro s hs
    obtain ⟨group, hgroup, hmem⟩ := List.mem_flatten.1 hs
    exact (hgroups group hgroup).2 s hmem
  refine ⟨?_, ?_, ?_, ?_⟩
  · intro hnone
    exact ⟨_, parse_publicIpsArguments hgroups hothers hnone, externalIps_eq_addresses _⟩
  · intro hset
    refine ⟨_, parse_publicIpsVariable hothers hset, ?_⟩
    exact (externalIps_eq_addresses _).trans (addresses_split hcommas)
  · exact fun ip hip => proper_of_mem_addresses hcommas hip
  · intro config batch hips
    rw [← hips]
    exact ⟨fun _ hresolve => Exposure.reachedAt_of_resolve hresolve,
      fun _ _ _ _ hx _ hcall => Lifecycle.reachedAt_of_create hx hcall⟩

end Groups

/-- Two groups, with an address that is given twice. -/
def repeatedAddress : List (List String) := [["10.0.0.1", " 10.0.0.2", ""], ["10.0.0.1"]]

/-- An environment with the same addresses in the variable. -/
def repeatedAddressVariable : Environment := fun name =>
  if name = "SERVICE_PUBLIC_IPS" then some "10.0.0.1, 10.0.0.2,,10.0.0.1" else none

/-- Blanks, an empty part and a repeated address: the arguments and the variable give the same list,
and it is that of the network service. -/
theorem publicIps_of_groups_repeated :
    (∃ o, parse ["--public-ips=10.0.0.1, 10.0.0.2,", "--public-ips=10.0.0.1"]
        repeatedAddressVariable = .ok o ∧
      o.config.externalIps = ["10.0.0.1", "10.0.0.2", "10.0.0.1"]) ∧
    (∃ o, parse [] repeatedAddressVariable = .ok o ∧
      o.config.externalIps = ["10.0.0.1", "10.0.0.2", "10.0.0.1"]) ∧
    ∃ v, Exposure.resolve ["10.0.0.1", "10.0.0.2", "10.0.0.1"]
        [{ name := "web", ports := [⟨8080, 80, "tcp"⟩] }] = .ok [v] ∧
      v.ReachedAt ["10.0.0.1", "10.0.0.2", "10.0.0.1"] := by
  have hgroups : ∀ group ∈ repeatedAddress, Separable group := by
    simp [repeatedAddress, Separable]
  have hothers : ∀ flag : Flag, flag ≠ .publicIps →
      repeatedAddressVariable flag.variableName = none := by
    intro flag hflag
    cases flag <;> first | exact absurd rfl hflag | rfl
  have hips : addresses repeatedAddress.flatten = ["10.0.0.1", "10.0.0.2", "10.0.0.1"] := by rfl
  have hservices : Exposure.resolve ["10.0.0.1", "10.0.0.2", "10.0.0.1"]
      [{ name := "web", ports := [⟨8080, 80, "tcp"⟩] }] =
        .ok [Exposure.networkService ["10.0.0.1", "10.0.0.2", "10.0.0.1"] "web"
          ⟨8080, 80, "tcp"⟩] := by rfl
  obtain ⟨hflags, hvariable, -, hreached⟩ := publicIps_of_groups hgroups hothers
  rw [hips] at hflags hvariable hreached
  refine ⟨hflags nofun, hvariable rfl, _, hservices, ?_⟩
  exact (hreached { externalIps := _ } _ rfl).1 _ hservices _ List.mem_cons_self

end Options

end Stevedore
