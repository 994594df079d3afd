import Stevedore.Proofs.Lifecycle.RemovalOfCreated
/-!
# What the objects of a batch select

The controllers and the network services of a batch are made apart from each other and meet in labels
and port numbers only. A controller selects the pods that it starts and no others; a network service
selects the pods of the whole adapter, and its port is the one that the container of its target opens.

Main definitions:

- `Controller.Selects` and `NetworkService.Selects`: the selector of an object asks for labels that are
  there.
- `NetworkService.Meets`: the port of a network service fits the pods of a controller.
- `Exposure.ownServices`: the network services that the services of a batch have by themselves.

Main results:

- Theorem `exists_port_of_createdFor`: what is created for a service carries the one port of it.
- Theorem `objects_of_batch_fit`: the objects of a resolved batch fit together.
-/

namespace Stevedore

namespace Cluster

/-! ## Selectors, pods and ports of an object -/

namespace Controller

/-- The labels of the pods that a controller starts. -/
def podLabels? (c : Controller) : Option Labels :=
  c.spec.bind (·.template) |>.bind (·.metadata) |>.bind (·.labels)

/-- The containers of the pods that a controller starts. -/
def containers (c : Controller) : List Container :=
  ((c.spec.bind (·.template) |>.bind (·.spec)).map (·.containers)).getD []

/-- The controller has a selector, and labels have all that it asks for. -/
def Selects (c : Controller) (labels : Option Labels) : Prop :=
  ∃ terms, c.spec.bind (·.selector) = some terms ∧ (Selector.mk terms).selects labels

end Controller

/-- The network service has a selector, and labels have all that it asks for. -/
def NetworkService.Selects (v : NetworkService) (labels : Option Labels) : Prop :=
  ∃ terms, v.spec.bind (·.selector) = some terms ∧ (Selector.mk terms).selects labels

/-- A network service has one port, and so has the one container that a controller runs. It leads to
that port by the same protocol, and it is reached at the port of the host, where there is one, and else
at the port of the container. -/
def NetworkService.Meets (v : NetworkService) (c : Controller) : Prop :=
  ∃ container target port,
    c.containers = [container] ∧ container.ports = some [target] ∧
      v.spec.bind (·.ports) = some [port] ∧
      port.targetPort = some (.number target.containerPort) ∧ port.protocol = target.protocol ∧
      port.port = target.hostPort.getD target.containerPort

end Cluster

open Cluster

/-! ## The controller of a service -/

namespace Workload

/-- The pods of a service have its labels. -/
theorem podLabels?_controller (s : Service) :
    (controller s).podLabels? = some (podLabels (Name.sanitize s.name)) := rfl

/-- The pods of a service carry its name as a label. -/
theorem get?_serviceNameLabel_podLabels (name : String) :
    (podLabels name).get? serviceNameLabel = some name := by
  have hlt : applicationLabel < serviceNameLabel := by decide
  have hne : (serviceNameLabel == applicationLabel) = false := by decide
  simp [podLabels, Labels.single, Labels.insert, Labels.get?, Labels.empty, insertEntry, hlt,
    List.lookup_cons, hne]

/-- The pods of a service carry the label of the adapter. -/
theorem get?_applicationLabel_podLabels (name : String) :
    (podLabels name).get? applicationLabel = some applicationLabel := by
  have hlt : applicationLabel < serviceNameLabel := by decide
  simp [podLabels, Labels.single, Labels.insert, Labels.get?, Labels.empty, insertEntry, hlt]

/-- A network name finds the pods of the service that has it. -/
theorem forName_selects_podLabels_iff (name other : String) :
    (Selector.forName name).selects (some (podLabels other)) ↔ other = name := by
  rw [Selector.forName_selects_iff, Option.bind_some, get?_serviceNameLabel_podLabels,
    Option.some.injEq]

/-- The controller of a service selects the pods of a service with the same network name. -/
theorem selects_podLabels_iff (s t : Service) :
    (controller s).Selects (controller t).podLabels? ↔ Name.sanitize t.name = Name.sanitize s.name := by
  rw [podLabels?_controller, ← forName_selects_podLabels_iff]
  constructor
  · rintro ⟨terms, hterms, hselects⟩
    obtain rfl := Option.some.inj hterms
    exact hselects
  · exact fun hselects => ⟨_, rfl, hselects⟩

end Workload

namespace Exposure

/-! ## The network services of a batch -/

section Resolved

variable {externalIps : List String} {batch : List Service} {services : List NetworkService}

/-- Every network service selects the pods of every service. -/
theorem networkService_selects (externalIps : List String) (name : String) (p : Port)
    (s : Service) :
    (networkService externalIps name p).Selects (Workload.controller s).podLabels? := by
  refine ⟨.single applicationLabel applicationLabel, rfl, ?_⟩
  rw [Workload.podLabels?_controller]
  simp [Selector.selects, Labels.single, Labels.insert, Labels.empty, insertEntry,
    Workload.get?_applicationLabel_podLabels]

/-- The network service for the port of a service meets the container of that service. -/
theorem networkService_meets (externalIps : List String) (name : String) {p : Port} {t : Service}
    (hp : t.ports = [p]) : (networkService externalIps name p).Meets (Workload.controller t) := by
  refine ⟨Workload.container t, Workload.containerPort p, servicePort p, rfl, ?_, rfl, rfl, rfl, ?_⟩
  · simp [Workload.container, presentUnlessNil, hp]
  · unfold servicePort Workload.containerPort
    by_cases hhost : p.host = 0 <;> simp [hhost]

/-- What is created for a service carries the one port of it. -/
theorem exists_port_of_createdFor (h : resolve externalIps batch = .ok services)
    {v : NetworkService} (hv : v ∈ services) {t : Service} (ht : CreatedFor batch v t) :
    ∃ name p, t.ports = [p] ∧ v = networkService externalIps name p := by
  have hbatch := unambiguous_of_resolve h
  obtain ⟨added, -, hadded, rfl⟩ := resolve_eq_ok h
  have hkeys := nodup_map_fst_entries hbatch hadded
  obtain ⟨x, hx, rfl⟩ := List.mem_map.1 hv
  have hfits : ∀ {name : String} {p : Port}, (name, p) ∈ ownNames batch ++ added →
      t.ports = [p] → x.1 = name → ∃ name p, t.ports = [p] ∧
        networkService externalIps x.1 x.2 = networkService externalIps name p := by
    intro name p hmem hp hname
    obtain rfl : x = (name, p) := List.inj_on_of_nodup_map hkeys hx hmem hname
    exact ⟨name, p, hp, rfl⟩
  have hport : ∀ {t : Service}, t ∈ batch → t.ports ≠ [] → ∃ p, t.ports = [p] := by
    intro t ht hne
    have hle := hbatch.ports_le t ht
    have hpos := List.length_pos_iff.2 hne
    exact List.length_eq_one_iff.1 (by omega)
  obtain ⟨hmem, ⟨hne, hname⟩ | ⟨l, hl, htarget, hname⟩⟩ := ht
  · obtain ⟨p, hp⟩ := hport hmem hne
    exact hfits (mem_entries_of_service hmem (by rw [hp]; rfl)) hp (Option.some.inj hname)
  · obtain ⟨u, hu, huname, hne⟩ := hbatch.target_maps l hl
    obtain rfl : t = u :=
      eq_of_sanitize_eq hbatch.names_nodup hmem hu (by rw [← htarget, huname])
    obtain ⟨p, hp⟩ := hport hmem hne
    exact hfits (mem_entries_of_link hbatch hadded hl hmem huname (by rw [hp]; rfl)) hp
      (Option.some.inj hname)

end Resolved

/-! ## Services under their own names -/

/-- The network services that the services of a batch have by themselves. -/
def ownServices (externalIps : List String) (batch : List Service) : List NetworkService :=
  (ownNames batch).map fun x => networkService externalIps x.1 x.2

/-- A name selects among them those of the services that have it. -/
theorem filter_ownServices (externalIps : List String) (batch : List Service) (id : String) :
    ((ownServices externalIps batch).filter fun v => (Selector.forName id).selects v.metadata.labels) =
      ownServices externalIps (batch.filter fun s => Name.sanitize s.name = id) := by
  have hselects : ∀ name p, (Selector.forName id).selects
      (networkService externalIps name p).metadata.labels = decide (name = id) := by
    intro name p
    have hgoes := goesWith_networkService_iff externalIps name p id
    rw [Bool.eq_iff_iff, decide_eq_true_iff, ← hgoes]
    exact ⟨fun h => ⟨rfl, h⟩, fun h => h.2⟩
  unfold ownServices ownNames
  induction batch with
  | nil => rfl
  | cons s rest ih =>
      cases hport : s.ports.head? with
      | none => by_cases hid : Name.sanitize s.name = id <;> simp [hport, hid, ih]
      | some p => by_cases hid : Name.sanitize s.name = id <;> simp [hport, hid, ih, hselects]

/-- A service has a network service by itself for the port that it maps. -/
theorem ownServices_singleton (externalIps : List String) {s : Service}
    (hle : s.ports.length ≤ 1) :
    ownServices externalIps [s] = s.ports.map (networkService externalIps (Name.sanitize s.name)) := by
  unfold ownServices ownNames
  match hports : s.ports with
  | [] => simp [hports]
  | [p] => simp [hports]
  | p :: q :: more => simp [hports] at hle

/-- Services at different places of a resolved batch have different network names. -/
theorem place_eq_iff {batch : List Service} (hbatch : Unambiguous batch)
    (i j : Fin batch.length) :
    Name.sanitize batch[j].name = Name.sanitize batch[i].name ↔ j = i := by
  constructor
  · intro hname
    have hplaces := List.nodup_iff_injective_getElem.1 hbatch.names_nodup
    have hmapped : (⟨j, by simp⟩ : Fin (batch.map fun s => Name.sanitize s.name).length) =
        ⟨i, by simp⟩ := hplaces (by simpa using hname)
    exact Fin.ext (Fin.mk.inj hmapped)
  · rintro rfl
    rfl

/-- The service at a place is the only one with its network name. -/
theorem filter_sanitize_eq {batch : List Service} (hbatch : Unambiguous batch) {s : Service}
    (hs : s ∈ batch) :
    (batch.filter fun t => Name.sanitize t.name = Name.sanitize s.name) = [s] := by
  have hkey := filter_key_eq_singleton hbatch.names_nodup hs
  rw [← hkey]
  exact List.filter_congr fun t _ => by rw [Bool.eq_iff_iff, decide_eq_true_iff, beq_iff_eq]

/-- The objects of a resolved batch fit together. A controller selects the pods of its own template and
those of no other controller. The selector that finds the pods of a deployment by its id selects those
of its controller, and among the network services that services have by themselves the one of this
service, if it maps a port. Every network service selects the pods of every controller; it was created
for a service of the batch, and it meets the pods of that service. -/
theorem objects_of_batch_fit {externalIps : List String} {batch : List Service}
    {services : List NetworkService} (h : resolve externalIps batch = .ok services) :
    (∀ i j : Fin batch.length, (Workload.controller batch[i]).Selects
      (Workload.controller batch[j]).podLabels? ↔ j = i) ∧
    (ownServices externalIps batch <+: services ∧ ∀ i : Fin batch.length,
      let c := Workload.controller batch[i]
      let selector := Selector.forName c.nameOrEmpty
      Lifecycle.nameOf c.nameOrEmpty c = c.nameOrEmpty ∧
      (∀ j : Fin batch.length,
        selector.selects (Workload.controller batch[j]).podLabels? ↔ j = i) ∧
      (ownServices externalIps batch).filter (fun v => selector.selects v.metadata.labels) =
        batch[i].ports.map (networkService externalIps c.nameOrEmpty)) ∧
    (∀ v ∈ services, ∀ s ∈ batch, v.Selects (Workload.controller s).podLabels?) ∧
    ∀ v ∈ services, (∃ t, CreatedFor batch v t) ∧
      ∀ t, CreatedFor batch v t → v.Meets (Workload.controller t) := by
  have hbatch := unambiguous_of_resolve h
  refine ⟨?_, ⟨?_, ?_⟩, ?_, ?_⟩
  · intro i j
    rw [Workload.selects_podLabels_iff, place_eq_iff hbatch]
  · obtain ⟨added, -, -, rfl⟩ := resolve_eq_ok h
    rw [List.map_append]
    exact List.prefix_append _ _
  · intro i c selector
    have hid : c.nameOrEmpty = Name.sanitize batch[i].name := rfl
    have hmem : batch[i] ∈ batch := List.getElem_mem i.isLt
    refine ⟨rfl, fun j => ?_, ?_⟩
    · rw [Workload.podLabels?_controller, Workload.forName_selects_podLabels_iff, hid,
        place_eq_iff hbatch]
    · rw [filter_ownServices, hid, filter_sanitize_eq hbatch hmem]
      exact ownServices_singleton externalIps (hbatch.ports_le _ hmem)
  · intro v hv s _
    obtain ⟨name, p, rfl⟩ := exists_networkService_of_mem h hv
    exact networkService_selects externalIps name p s
  · intro v hv
    refine ⟨exists_createdFor h hv, fun t ht => ?_⟩
    obtain ⟨name, p, hp, rfl⟩ := exists_port_of_createdFor h hv ht
    exact networkService_meets externalIps name hp

/-- The alias of a batch is served by the pods of its target. -/
theorem objects_of_batch_fit_blog :
    ∃ services, resolve ["10.0.0.1"] blog = .ok services ∧
      services.map (·.metadata.name) = [some "blog", some "db", some "db-1"] ∧
      ∀ v ∈ services, v.metadata.name = some "db-1" → v.Meets (Workload.controller blog[2]) := by
  have h : resolve ["10.0.0.1"] blog = .ok [
      networkService ["10.0.0.1"] "blog" ⟨8080, 80, "tcp"⟩,
      networkService ["10.0.0.1"] "db" ⟨0, 3306, ""⟩,
      networkService ["10.0.0.1"] "db-1" ⟨0, 3306, ""⟩] := by rfl
  obtain ⟨-, -, -, hmeets⟩ := objects_of_batch_fit h
  refine ⟨_, h, rfl, fun v hv hname => (hmeets v hv).2 blog[2] ⟨by simp [blog], .inr ?_⟩⟩
  refine ⟨⟨"DB", "db-1"⟩, ?_, rfl, hname⟩
  simp [blog, aliasedLinks, Service.aliasedLinks]

end Exposure

end Stevedore
