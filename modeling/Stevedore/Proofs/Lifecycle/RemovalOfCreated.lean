import Stevedore.Proofs.Lifecycle.CreationInMemory
import Stevedore.Proofs.Lifecycle.RemovalInMemory
/-!
# Removing what was created

Creation and removal are joined by a label only. A network service is labelled with its own name, so
it goes with the deployment of that name. For the network service of an alias this is not the target
of the link: it stays when the target is removed, and it is removed with a deployment whose name it
happens to have.

Main definitions:

- `CreatedFor`: a network service was created for a service of the batch.

Main results:

- Theorem `goesWith_networkService_iff`: a network service goes with the deployment of its own name.
- Theorems `exists_createdFor` and `CreatedFor.unique`: it was created for exactly one service.
- Theorem `removal_of_created`: what is left after removals, and when it is what was created for the
  deployments that remain.
-/

namespace Stevedore

open Backend Cluster Program

/-! ## Network services and their deployments -/

namespace Exposure

/-- A network service goes with the deployment of its own name, and with no other. -/
theorem goesWith_networkService_iff (externalIps : List String) (name : String) (p : Port)
    (id : String) : (networkService externalIps name p).GoesWith id ↔ name = id := by
  have hnamed : (networkService externalIps name p).metadata.name = some name := rfl
  have hlabel : ((networkService externalIps name p).metadata.labels).bind
      (·.get? serviceNameLabel) = some name := by
    simp [networkService, Labels.single, Labels.insert, Labels.get?, Labels.empty, insertEntry]
  unfold NetworkService.GoesWith
  rw [Selector.forName_selects_iff, hnamed, hlabel]
  simp

/-- The network services of a batch are made of names and ports. -/
theorem exists_networkService_of_mem {externalIps : List String} {batch : List Service}
    {services : List NetworkService} (h : resolve externalIps batch = .ok services)
    {v : NetworkService} (hv : v ∈ services) : ∃ name p, v = networkService externalIps name p := by
  obtain ⟨added, -, -, rfl⟩ := resolve_eq_ok h
  obtain ⟨x, -, rfl⟩ := List.mem_map.1 hv
  exact ⟨x.1, x.2, rfl⟩

/-- The network service was created for a service of the batch: as its own, or for a link to it. -/
def CreatedFor (batch : List Service) (v : NetworkService) (t : Service) : Prop :=
  t ∈ batch ∧
    ((t.ports ≠ [] ∧ v.metadata.name = some (Name.sanitize t.name)) ∨
      ∃ l ∈ aliasedLinks batch, l.target = t.name ∧ v.metadata.name = some (addedName l))

section Targets

variable {externalIps : List String} {batch : List Service} {services : List NetworkService}

/-- Every network service of a batch was created for one of its services. -/
theorem exists_createdFor (h : resolve externalIps batch = .ok services) {v : NetworkService}
    (hv : v ∈ services) : ∃ t, CreatedFor batch v t := by
  obtain ⟨added, -, hadded, rfl⟩ := resolve_eq_ok h
  obtain ⟨x, hx, rfl⟩ := List.mem_map.1 hv
  rcases List.mem_append.1 hx with hown | hlink
  · obtain ⟨t, ht, hport, hname⟩ := (mem_ownNames_iff batch x).1 hown
    refine ⟨t, ht, .inl ⟨?_, by rw [hname]; rfl⟩⟩
    intro hnil
    simp [hnil] at hport
  · obtain ⟨l, hl, hname, hport⟩ := link_of_mem_aliasNames hadded hlink
    obtain ⟨t, hfind, -⟩ := (targetPort_eq_ok_iff batch l x.2).1 hport
    obtain ⟨ht, htarget⟩ := mem_and_name_of_find? hfind
    exact ⟨t, ht, .inr ⟨l, hl, htarget.symm, by rw [hname]; rfl⟩⟩

/-- A network service was created for one service only. -/
theorem CreatedFor.unique (hbatch : Unambiguous batch) {v : NetworkService} {t u : Service}
    (ht : CreatedFor batch v t) (hu : CreatedFor batch v u) : t = u := by
  have hsame : ∀ {t u : Service}, t ∈ batch → u ∈ batch → t.name = u.name → t = u := by
    intro t u ht hu hname
    exact eq_of_sanitize_eq hbatch.names_nodup ht hu (by rw [hname])
  obtain ⟨htmem, ht⟩ := ht
  obtain ⟨humem, hu⟩ := hu
  rcases ht with ⟨htports, htname⟩ | ⟨l, hl, htarget, htname⟩
  · rcases hu with ⟨-, huname⟩ | ⟨m, hm, hutarget, huname⟩
    · rw [htname, Option.some.injEq] at huname
      exact eq_of_sanitize_eq hbatch.names_nodup htmem humem huname
    · rw [htname, Option.some.injEq] at huname
      have hown := hbatch.own_target m hm t htmem htports huname.symm
      exact hsame htmem humem (hown.symm.trans hutarget)
  · rcases hu with ⟨huports, huname⟩ | ⟨m, hm, hutarget, huname⟩
    · rw [htname, Option.some.injEq] at huname
      have hown := hbatch.own_target l hl u humem huports huname
      exact hsame htmem humem (htarget.symm.trans hown)
    · rw [htname, Option.some.injEq] at huname
      have hagree := hbatch.agreeing l hl m hm huname
      exact hsame htmem humem (by rw [← htarget, hagree, hutarget])

/-- Every link with an alias has its network service. -/
theorem exists_mem_of_link (h : resolve externalIps batch = .ok services) {l : Link}
    (hl : l ∈ aliasedLinks batch) :
    ∃ v ∈ services, v.metadata.name = some (addedName l) ∧
      ∃ t, t.name = l.target ∧ CreatedFor batch v t := by
  have hbatch := unambiguous_of_resolve h
  obtain ⟨added, -, hadded, rfl⟩ := resolve_eq_ok h
  obtain ⟨t, ht, htarget, hports⟩ := hbatch.target_maps l hl
  obtain ⟨p, more, hp⟩ := List.exists_cons_of_ne_nil hports
  have hmem := mem_entries_of_link hbatch hadded hl ht htarget (by rw [hp]; rfl)
  refine ⟨networkService externalIps (addedName l) p, List.mem_map.2 ⟨_, hmem, rfl⟩, rfl, ?_⟩
  exact ⟨t, htarget, ht, .inr ⟨l, hl, htarget.symm, rfl⟩⟩

end Targets

end Exposure

namespace Lifecycle

variable {config : Config} {batch : List Service} {s t : Store} {records : List DeploymentRecord}

/-- What is known when a batch was created: the resolver accepted it, there is a record for each
service, and the store has its objects. -/
theorem created_of_run_eq_ok
    (h : (create config batch).run Store.answer s = (.ok records, t)) :
    ∃ services, Exposure.resolve config.externalIps batch = .ok services ∧
      records = batch.map (fun b => ⟨Name.sanitize b.name, "pending"⟩) ∧
      t = s.adding services batch := by
  cases hresolve : Exposure.resolve config.externalIps batch with
  | error r =>
      unfold create at h
      rw [hresolve, run_fail] at h
      simp at h
  | ok services =>
      have houtcome := outcome_create hresolve s
      rw [h] at houtcome
      cases houtcome with
      | created _ _ => exact ⟨services, rfl, rfl, rfl⟩

/-- A batch that was created in an empty store is all that is stored there. -/
theorem created_in_empty (hcontrollers : s.controllers = []) (hservices : s.services = [])
    (hs : ∀ op, s.errors op = none)
    (h : (create config batch).run Store.handle s = (.ok records, t)) :
    Exposure.resolve config.externalIps batch = .ok t.services ∧
      records = batch.map (fun b => ⟨Name.sanitize b.name, "pending"⟩) ∧
      t.controllers = batch.map Workload.unobserved ∧
      (∀ op, t.errors op = none) ∧ t.DistinctNames := by
  have hdistinct : t.DistinctNames := by
    have hempty : s.DistinctNames :=
      ⟨by simp [Store.controllerNames, hcontrollers], by simp [Store.serviceNames, hservices]⟩
    have hafter := Store.distinctNames_run (create config batch) hempty
    rwa [h] at hafter
  rw [(Store.run_handle hs _).1] at h
  rcases created_of_run_eq_ok h with ⟨services, hresolve, hrecords, ht⟩
  have htservices : t.services = services := by
    simp [ht, Store.adding, hservices]
  refine ⟨htservices ▸ hresolve, hrecords, ?_, ?_, hdistinct⟩
  · simp [ht, Store.adding, hcontrollers]
  · rw [ht]
    exact hs

/-! ## What removals leave of one batch -/

section Left

variable {services : List NetworkService} {ids : List String}

/-- If nothing but a batch is stored, the deployments are those of the batch. -/
theorem hasController_of_only (h : t.controllers = batch.map Workload.unobserved) (name : String) :
    t.HasController name ↔ ∃ b ∈ batch, Name.sanitize b.name = name := by
  unfold Store.HasController
  rw [h]
  simp

/-- If nothing but a batch is stored, the controllers that are left are those of the other names. -/
theorem controllers_without_of_only (h : t.controllers = batch.map Workload.unobserved) :
    (t.without ids).controllers = t.controllers.filter fun c => c.nameOrEmpty ∉ ids := by
  unfold Store.without
  refine List.filter_congr fun c hc => ?_
  rw [h, List.mem_map] at hc
  obtain ⟨b, -, rfl⟩ := hc
  rw [decide_eq_decide]
  constructor
  · intro hother hmem
    exact hother _ hmem rfl
  · intro hkept id hid hname
    obtain rfl : Name.sanitize b.name = id := by simpa using hname
    exact hkept hid

/-- Of the deployments of one batch each takes the network service of its own name. -/
theorem services_without_of_only
    (hresolve : Exposure.resolve config.externalIps batch = .ok t.services)
    (hids : ∀ id ∈ ids, t.HasController id) :
    (t.without ids).services = t.services.filter fun v => v.nameOrEmpty ∉ ids := by
  unfold Store.without
  refine List.filter_congr fun v hv => ?_
  obtain ⟨name, p, rfl⟩ := Exposure.exists_networkService_of_mem hresolve hv
  rw [decide_eq_decide]
  simp only [Exposure.goesWith_networkService_iff]
  change _ ↔ name ∉ ids
  constructor
  · intro hstays hmem
    exact hstays name hmem (hids name hmem) rfl
  · rintro hkept id hid - rfl
    exact hkept hid

/-- The network services that keep their names are those of the remaining deployments exactly if
every alias is removed with the target of its link. -/
theorem left_iff_createdFor
    (hresolve : Exposure.resolve config.externalIps batch = .ok services) (ids : List String) :
    (∀ v ∈ services, v.nameOrEmpty ∉ ids ↔
        ∃ b, Exposure.CreatedFor batch v b ∧ Name.sanitize b.name ∉ ids) ↔
      ∀ l ∈ Exposure.aliasedLinks batch,
        Exposure.addedName l ∈ ids ↔ Name.sanitize l.target ∈ ids := by
  have hbatch := Exposure.unambiguous_of_resolve hresolve
  have htarget : ∀ v b, Exposure.CreatedFor batch v b →
      ((∃ b, Exposure.CreatedFor batch v b ∧ Name.sanitize b.name ∉ ids) ↔
        Name.sanitize b.name ∉ ids) := by
    intro v b hb
    constructor
    · rintro ⟨c, hc, hkept⟩
      obtain rfl := hb.unique hbatch hc
      exact hkept
    · intro hkept
      exact ⟨b, hb, hkept⟩
  constructor
  · intro h l hl
    obtain ⟨v, hv, hname, b, hbname, hb⟩ := Exposure.exists_mem_of_link hresolve hl
    have hiff := h v hv
    rw [htarget v b hb, NetworkService.nameOrEmpty_of_name hname, hbname] at hiff
    exact not_iff_not.1 hiff
  · intro h v hv
    obtain ⟨b, hb⟩ := Exposure.exists_createdFor hresolve hv
    rw [htarget v b hb, not_iff_not]
    rcases hb with ⟨-, ⟨-, hname⟩ | ⟨l, hl, hltarget, hname⟩⟩
    · rw [NetworkService.nameOrEmpty_of_name hname]
    · rw [NetworkService.nameOrEmpty_of_name hname, h l hl, hltarget]

/-- If all deployments are removed, nothing is left exactly if every alias was the name of one. -/
theorem left_eq_nil_iff
    (hresolve : Exposure.resolve config.externalIps batch = .ok services)
    (hall : ∀ b ∈ batch, Name.sanitize b.name ∈ ids) :
    (services.filter fun v => v.nameOrEmpty ∉ ids) = [] ↔
      ∀ l ∈ Exposure.aliasedLinks batch, Exposure.addedName l ∈ ids := by
  rw [List.filter_eq_nil_iff]
  simp only [decide_eq_true_eq, not_not]
  constructor
  · intro h l hl
    obtain ⟨v, hv, hname, -⟩ := Exposure.exists_mem_of_link hresolve hl
    rw [← NetworkService.nameOrEmpty_of_name hname]
    exact h v hv
  · intro h v hv
    obtain ⟨b, hbmem, ⟨-, hname⟩ | ⟨l, hl, -, hname⟩⟩ := Exposure.exists_createdFor hresolve hv
    · rw [NetworkService.nameOrEmpty_of_name hname]
      exact hall b hbmem
    · rw [NetworkService.nameOrEmpty_of_name hname]
      exact h l hl

/-- Over leftovers of the batch itself it is created again exactly if there are none. -/
theorem run_eq_ok_iff_of_leftover
    (hresolve : Exposure.resolve config.externalIps batch = .ok services)
    (hcontrollers : s.controllers = []) (hleftover : ∀ v ∈ s.services, v ∈ services) :
    (∃ again, ((create config batch).run Store.answer s).1 = .ok again) ↔ s.services = [] := by
  have houtcome := outcome_create hresolve s
  generalize (create config batch).run Store.answer s = result at houtcome
  cases houtcome with
  | created hfree _ =>
      refine ⟨fun _ => ?_, fun _ => ⟨_, rfl⟩⟩
      rw [List.eq_nil_iff_forall_not_mem]
      intro v hv
      obtain ⟨name, p, rfl⟩ := Exposure.exists_networkService_of_mem hresolve (hleftover v hv)
      exact hfree _ (hleftover _ hv) ⟨_, hv, rfl⟩
  | serviceTaken _ _ htaken =>
      obtain ⟨v, hv, -⟩ := htaken
      refine ⟨by simp, fun hnil => ?_⟩
      simp [hnil] at hv
  | workloadTaken _ _ _ htaken =>
      obtain ⟨c, hc, -⟩ := htaken
      simp [hcontrollers] at hc

end Left

/-! ## Removing deployments of a batch -/

/-- Removals of deployments of a batch that was created in an empty store succeed. They leave the
controllers of the others, and the network services that do not have the name of a deployment that
is removed. These are the ones that were created for the others exactly if every alias is removed
with the target of its link. Once all deployments are removed, the batch can be created again exactly
if nothing is left, that is, if every alias was the name of a deployment. -/
theorem removal_of_created (hcontrollers : s.controllers = []) (hservices : s.services = [])
    (hs : ∀ op, s.errors op = none)
    (hcreated : (create config batch).run Store.handle s = (.ok records, t))
    {removals : List Removal} (hends : ∀ r ∈ removals, r.Ends)
    (hids : (removals.map (·.id)).Nodup) (hreturned : ∀ r ∈ removals, r.id ∈ records.map (·.id)) :
    let ids := removals.map (·.id)
    let left := runEach Store.handle (removals.map (·.program)) t
    (∀ outcome ∈ left.1, outcome = .ok ()) ∧
    left.2.controllers = t.controllers.filter (fun c => c.nameOrEmpty ∉ ids) ∧
    left.2.services = t.services.filter (fun v => v.nameOrEmpty ∉ ids) ∧
    ((∀ v ∈ t.services, v ∈ left.2.services ↔
        ∃ b, Exposure.CreatedFor batch v b ∧ Name.sanitize b.name ∉ ids) ↔
      ∀ l ∈ Exposure.aliasedLinks batch,
        Exposure.addedName l ∈ ids ↔ Name.sanitize l.target ∈ ids) ∧
    ((∀ d ∈ records, d.id ∈ ids) →
      left.2.controllers = [] ∧
      (left.2.services = [] ↔ ∀ l ∈ Exposure.aliasedLinks batch, Exposure.addedName l ∈ ids) ∧
      ((∃ again, ((create config batch).run Store.handle left.2).1 = .ok again) ↔
        left.2.services = [])) := by
  intro ids left
  rcases created_in_empty hcontrollers hservices hs hcreated with
    ⟨hresolve, hrecords, htcontrollers, hterrors, hdistinct⟩
  have hstored : ∀ r ∈ removals, t.HasController r.id := by
    intro r hr
    have hid := hreturned r hr
    rw [hasController_of_only htcontrollers]
    simpa [hrecords] using hid
  have hidsStored : ∀ id ∈ ids, t.HasController id := by
    intro id hid
    obtain ⟨r, hr, rfl⟩ := List.mem_map.1 hid
    exact hstored r hr
  have hleft : Store.SameButPods (t.without ids) left.2 :=
    runEach_handle_removals hterrors hdistinct removals
  have hleftControllers : left.2.controllers = t.controllers.filter fun c => c.nameOrEmpty ∉ ids :=
    hleft.controllers_eq.trans (controllers_without_of_only htcontrollers)
  have hleftServices : left.2.services = t.services.filter fun v => v.nameOrEmpty ∉ ids :=
    hleft.services_eq.trans (services_without_of_only hresolve hidsStored)
  refine ⟨?_, hleftControllers, hleftServices, ?_, ?_⟩
  · change ∀ outcome ∈ (runEach Store.handle (removals.map (·.program)) t).1, outcome = .ok ()
    rw [runEach_handle hterrors]
    exact outcomes_removals hdistinct hends hids hstored
  · rw [← left_iff_createdFor hresolve ids]
    refine forall₂_congr fun v hv => ?_
    rw [hleftServices, List.mem_filter, decide_eq_true_eq]
    simp [hv]
  · intro hall
    have hbatch : ∀ b ∈ batch, Name.sanitize b.name ∈ ids := by
      simpa [hrecords] using hall
    have hnone : left.2.controllers = [] := by
      rw [hleftControllers, htcontrollers, List.filter_eq_nil_iff]
      intro c hc
      obtain ⟨b, hb, rfl⟩ := List.mem_map.1 hc
      have hremoved : (Workload.unobserved b).nameOrEmpty ∈ ids := hbatch b hb
      simpa using hremoved
    refine ⟨hnone, ?_, ?_⟩
    · rw [hleftServices, left_eq_nil_iff hresolve hbatch]
    · have hlefterrors : ∀ op, left.2.errors op = none := by
        rw [hleft.errors_eq]
        exact hterrors
      rw [(Store.run_handle hlefterrors _).1]
      refine run_eq_ok_iff_of_leftover hresolve hnone fun v hv => ?_
      rw [hleftServices] at hv
      exact (List.mem_filter.1 hv).1

/-- A service without ports links to a database under another name. -/
def linked : List Service := [
  { name := "wp", source := "wordpress", links := [⟨"db", "cache"⟩] },
  { name := "db", source := "mysql", ports := [⟨0, 3306, "TCP"⟩] }]

/-- The removal of both deployments. -/
def unlinking : List Removal := [.prompt "wp", .prompt "db"]

theorem ends_unlinking : ∀ r ∈ unlinking, r.Ends := by
  intro r hr
  rcases List.mem_pair.1 hr with rfl | rfl
  · exact Removal.ends_prompt "wp"
  · exact Removal.ends_prompt "db"

/-- The network service under the alias stays after both removals, so the batch cannot be created
again. -/
theorem removal_of_created_linked :
    let created := (create {} linked).run Store.handle {}
    let left := runEach Store.handle (unlinking.map (·.program)) created.2
    created.1 = .ok [⟨"wp", "pending"⟩, ⟨"db", "pending"⟩] ∧
      (∀ r ∈ unlinking, r.Ends) ∧
      (∀ outcome ∈ left.1, outcome = .ok ()) ∧
      left.2.controllers = [] ∧
      left.2.services.map (·.metadata.name) = [some "cache"] ∧
      ¬ ∃ again, ((create {} linked).run Store.handle left.2).1 = .ok again := by
  intro created left
  have hcreated : created = (.ok [⟨"wp", "pending"⟩, ⟨"db", "pending"⟩], created.2) := by rfl
  obtain ⟨hok, -, hservices, -, hall⟩ := removal_of_created (s := {}) rfl rfl (fun _ => rfl)
    hcreated ends_unlinking (by decide) (by decide)
  obtain ⟨hcontrollers, -, hagain⟩ := hall (by decide)
  have hstored : created.2.services = [Exposure.networkService [] "db" ⟨0, 3306, "TCP"⟩,
      Exposure.networkService [] "cache" ⟨0, 3306, "TCP"⟩] := by rfl
  have hnames : left.2.services.map (·.metadata.name) = [some "cache"] := by
    rw [hservices, hstored]
    rfl
  refine ⟨by rw [hcreated], ends_unlinking, hok, hcontrollers, hnames, ?_⟩
  rw [hagain]
  intro hnil
  have hnone : left.2.services.map (·.metadata.name) = [] := by
    rw [List.map_eq_nil_iff]
    exact hnil
  simp [hnames] at hnone

/-- It does not hold that what is left is what was created for the deployments that remain: the
network service of an alias outlives the deployment that it leads to. -/
theorem alias_outlives_target :
    ¬ ∀ (config : Config) (batch : List Service) (s t : Store) (records : List DeploymentRecord)
      (removals : List Removal),
      s.controllers = [] → s.services = [] → (∀ op, s.errors op = none) →
      (create config batch).run Store.handle s = (.ok records, t) →
      (∀ r ∈ removals, r.Ends) → (removals.map (·.id)).Nodup →
      (∀ r ∈ removals, r.id ∈ records.map (·.id)) →
      ∀ v ∈ t.services,
        v ∈ (runEach Store.handle (removals.map (·.program)) t).2.services ↔
          ∃ b, Exposure.CreatedFor batch v b ∧ Name.sanitize b.name ∉ removals.map (·.id) := by
  intro h
  have hcreated : (create {} linked).run Store.handle {} =
      (.ok [⟨"wp", "pending"⟩, ⟨"db", "pending"⟩],
        ((create {} linked).run Store.handle {}).2) := by rfl
  have hstored : ((create {} linked).run Store.handle {}).2.services =
      [Exposure.networkService [] "db" ⟨0, 3306, "TCP"⟩,
        Exposure.networkService [] "cache" ⟨0, 3306, "TCP"⟩] := by rfl
  have hleft : (runEach Store.handle (unlinking.map (·.program))
      ((create {} linked).run Store.handle {}).2).2.services =
        [Exposure.networkService [] "cache" ⟨0, 3306, "TCP"⟩] := by rfl
  have hiff := h {} linked {} _ _ unlinking rfl rfl (fun _ => rfl) hcreated ends_unlinking
    (by decide) (by decide) (Exposure.networkService [] "cache" ⟨0, 3306, "TCP"⟩) (by rw [hstored]; simp)
  rw [hleft] at hiff
  obtain ⟨b, ⟨hb, -⟩, hremains⟩ := hiff.1 (by simp)
  have hids : ∀ b ∈ linked, Name.sanitize b.name ∈ unlinking.map (·.id) := by
    decide
  exact hremains (hids b hb)

end Lifecycle

end Stevedore
