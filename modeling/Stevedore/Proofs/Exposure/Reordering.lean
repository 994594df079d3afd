import Stevedore.Proofs.Exposure.Precedence
import Stevedore.Proofs.Exposure.Routing
import Mathlib.Data.List.Perm.Basic
/-!
# Batches in another order

Each pass over a batch takes services and links one after the other, and what it has met decides what
it does next: a later service takes a name over from an earlier one, the first link with an alias claims
it, and the first entry under a name is the one that stays. For the answer none of this matters. Whether
a batch is accepted, and where its names lead, can be said without any order.

Main definitions:

- `Reordered`: the services of a batch, and the links of each, in another order.
- `SameMatter`: batches that agree in all that the resolver looks at, but for the order.
- `LeadsTo`: a network name of a batch leads to a port.

Main results:

- Theorem `exists_resolve_iff`: a batch is accepted exactly if it leaves no network name in doubt.
- Theorem `mem_entries_iff`: the entries of an accepted batch are the names with the ports they lead to.
- Theorem `resolve_reordered`: the answers to a batch and to the same batch in another order.
-/

namespace Stevedore.Exposure

open Cluster

/-! ## Orders of a batch -/

/-- The service with its links in another order. -/
def Relinked (s t : Service) : Prop := ∃ links, s.links.Perm links ∧ t = { s with links }

/-- The services of a batch in another order, each with its links in another order. -/
def Reordered (batch other : List Service) : Prop :=
  ∃ relinked, List.Forall₂ Relinked batch relinked ∧ relinked.Perm other

/-- The batches have services of the same names and ports, and the same links with an alias, in some
order. Which service a link belongs to is left open. -/
structure SameMatter (batch other : List Service) : Prop where
  services : (batch.map fun s => (s.name, s.ports)).Perm (other.map fun s => (s.name, s.ports))
  links : (aliasedLinks batch).Perm (aliasedLinks other)

/-- The order of the links of its services does not matter in a batch. -/
theorem sameMatter_of_relinked {batch other : List Service}
    (h : List.Forall₂ Relinked batch other) : SameMatter batch other := by
  induction h with
  | nil => exact ⟨.refl _, .refl _⟩
  | @cons s t batch other hst _ ih =>
      obtain ⟨links, hlinks, rfl⟩ := hst
      constructor
      · exact ih.services.cons (s.name, s.ports)
      · exact (hlinks.filter _).append ih.links

/-- Neither the order of its services nor that of their links matters in a batch. -/
theorem Reordered.sameMatter {batch other : List Service} (h : Reordered batch other) :
    SameMatter batch other := by
  obtain ⟨relinked, hlinks, hservices⟩ := h
  have hmatter := sameMatter_of_relinked hlinks
  constructor
  · exact hmatter.services.trans (hservices.map _)
  · exact hmatter.links.trans (hservices.flatMap_right _)

namespace SameMatter

variable {batch other : List Service}

theorem symm (h : SameMatter batch other) : SameMatter other batch :=
  ⟨h.services.symm, h.links.symm⟩

/-- A service is met in both batches, if only its name and its ports count. -/
theorem exists_service (h : SameMatter batch other) {s : Service} (hs : s ∈ batch) :
    ∃ t ∈ other, t.name = s.name ∧ t.ports = s.ports := by
  have hmem : (s.name, s.ports) ∈ other.map fun t => (t.name, t.ports) := by
    apply h.services.subset
    exact List.mem_map_of_mem hs
  obtain ⟨t, ht, heq⟩ := List.mem_map.1 hmem
  rw [Prod.mk.injEq] at heq
  exact ⟨t, ht, heq⟩

/-- Batches that matter alike have the same names. -/
theorem map_sanitize (h : SameMatter batch other) :
    (batch.map fun s => Name.sanitize s.name).Perm (other.map fun s => Name.sanitize s.name) := by
  have hnames := h.services.map fun x => Name.sanitize x.1
  simpa [List.map_map, Function.comp_def] using hnames

/-- Batches that matter alike have services with many ports, or neither has. -/
theorem hasManyPorts_eq (h : SameMatter batch other) : hasManyPorts batch = hasManyPorts other := by
  have hmany : ∀ {batch other : List Service}, SameMatter batch other →
      hasManyPorts batch = true → hasManyPorts other = true := by
    intro batch other h hbatch
    simp only [hasManyPorts, List.any_eq_true, decide_eq_true_eq] at hbatch ⊢
    obtain ⟨s, hs, hports⟩ := hbatch
    obtain ⟨t, ht, -, htports⟩ := h.exists_service hs
    exact ⟨t, ht, by rwa [htports]⟩
  rw [Bool.eq_iff_iff]
  exact ⟨hmany h, hmany h.symm⟩

/-- Names are unambiguous in both of two batches that matter alike. -/
theorem unambiguous (h : SameMatter batch other) (hbatch : Unambiguous batch) :
    Unambiguous other := by
  have hlink : ∀ {l : Link}, l ∈ aliasedLinks other → l ∈ aliasedLinks batch :=
    fun hl => h.links.symm.subset hl
  constructor
  case ports_le =>
    intro t ht
    obtain ⟨s, hs, -, hports⟩ := h.symm.exists_service ht
    rw [← hports]
    exact hbatch.ports_le s hs
  case names_nodup => exact h.map_sanitize.nodup_iff.1 hbatch.names_nodup
  case own_target =>
    intro l hl t ht hne hname
    obtain ⟨s, hs, hsname, hports⟩ := h.symm.exists_service ht
    rw [← hsname] at hname ⊢
    exact hbatch.own_target l (hlink hl) s hs (by rwa [hports]) hname
  case agreeing =>
    intro l hl l' hl' hname
    exact hbatch.agreeing l (hlink hl) l' (hlink hl') hname
  case target_maps =>
    intro l hl
    obtain ⟨s, hs, hname, hne⟩ := hbatch.target_maps l (hlink hl)
    obtain ⟨t, ht, htname, hports⟩ := h.exists_service hs
    exact ⟨t, ht, htname.trans hname, by rwa [hports]⟩

end SameMatter

/-! ## Acceptance -/

/-- A batch is accepted exactly if it leaves no network name in doubt. -/
theorem exists_resolve_iff (externalIps : List String) (batch : List Service) :
    (∃ services, resolve externalIps batch = .ok services) ↔ Unambiguous batch := by
  constructor
  · rintro ⟨services, h⟩
    exact unambiguous_of_resolve h
  · intro hbatch
    have halias : firstTakenAlias (ownOwners batch) (aliasedLinks batch) = none := by
      rw [firstTakenAlias_eq_none_iff]
      refine ⟨?_, hbatch.agreeing⟩
      intro l hl owner howner
      rw [lookup_ownOwners_eq_some_iff] at howner
      obtain ⟨before, s, after, rfl, hne, hname, rfl, -⟩ := howner
      exact hbatch.own_target l hl s (by simp) hne hname.symm
    have hname : firstTakenName [] batch = none :=
      (firstTakenName_eq_none_iff [] batch).2 ⟨hbatch.names_nodup, by simp⟩
    have hcheck : check batch = .ok () :=
      (check_eq_ok_iff batch).2 ⟨(hasManyPorts_eq_false_iff batch).2 hbatch.ports_le, halias, hname⟩
    rcases aliasNames_cases batch ((ownNames batch).map (·.1)) (aliasedLinks batch) with
      ⟨added, hadded, -⟩ | ⟨l, r, -, hr, before, after, hsplit, -⟩
    · refine ⟨(ownNames batch ++ added).map fun x => networkService externalIps x.1 x.2, ?_⟩
      simp only [resolve, names, hcheck, hadded]
    · obtain ⟨t, ht, htarget, hne⟩ := hbatch.target_maps l (by simp [hsplit])
      rw [targetPort_of_target hbatch.names_nodup ht htarget] at hr
      cases hports : t.ports with
      | nil => exact absurd hports hne
      | cons p more => simp [hports] at hr

/-- A batch with several ports on one service is a conflict, every other one that is rejected a failed
validation. -/
theorem toError_of_rejected {externalIps : List String} {batch : List Service} {r : Rejection}
    (h : resolve externalIps batch = .error r) :
    (hasManyPorts batch = true ∧ ∃ message, r.toError = .conflict message) ∨
      (hasManyPorts batch = false ∧ ∃ message, r.toError = .validation message) := by
  have hdue : Reported batch (errorOf? (resolve externalIps batch)) :=
    reported_resolve externalIps batch
  rw [h, errorOf?] at hdue
  generalize r.toError = e at hdue
  cases hdue with
  | manyPorts hs hports =>
      left
      refine ⟨?_, _, rfl⟩
      simp only [hasManyPorts, List.any_eq_true, decide_eq_true_eq]
      exact ⟨_, hs, hports⟩
  | aliasTaken hports _ => exact .inr ⟨(hasManyPorts_eq_false_iff batch).2 hports, _, rfl⟩
  | nameTaken hports _ _ => exact .inr ⟨(hasManyPorts_eq_false_iff batch).2 hports, _, rfl⟩
  | unknownTarget hports _ _ _ _ => exact .inr ⟨(hasManyPorts_eq_false_iff batch).2 hports, _, rfl⟩
  | portlessTarget hports _ _ _ _ _ =>
      exact .inr ⟨(hasManyPorts_eq_false_iff batch).2 hports, _, rfl⟩

/-! ## Entries -/

/-- A network name of a batch leads to a port: to that of a service which has the name, or to that of
the target of a link which adds it. -/
def LeadsTo (batch : List Service) (name : String) (p : Port) : Prop :=
  (∃ s ∈ batch, Name.sanitize s.name = name ∧ s.ports.head? = some p) ∨
    ∃ l ∈ aliasedLinks batch, addedName l = name ∧
      ∃ t ∈ batch, t.name = l.target ∧ t.ports.head? = some p

/-- A name leads to the same port in batches that matter alike. -/
theorem SameMatter.leadsTo {batch other : List Service} (h : SameMatter batch other)
    {name : String} {p : Port} (hlead : LeadsTo batch name p) : LeadsTo other name p := by
  rcases hlead with ⟨s, hs, hname, hp⟩ | ⟨l, hl, hname, s, hs, htarget, hp⟩
  · obtain ⟨t, ht, htname, hports⟩ := h.exists_service hs
    left
    exact ⟨t, ht, by rw [htname, hname], by rw [hports, hp]⟩
  · obtain ⟨t, ht, htname, hports⟩ := h.exists_service hs
    right
    exact ⟨l, h.links.subset hl, hname, t, ht, htname.trans htarget, by rw [hports, hp]⟩

/-- The entries of an accepted batch are its network names with the ports that they lead to. -/
theorem mem_entries_iff {batch : List Service} {added : List (String × Port)}
    (hbatch : Unambiguous batch)
    (hadded : aliasNames batch ((ownNames batch).map (·.1)) (aliasedLinks batch) = .ok added)
    (x : String × Port) : x ∈ ownNames batch ++ added ↔ LeadsTo batch x.1 x.2 := by
  constructor
  · intro hx
    rcases List.mem_append.1 hx with hown | hnew
    · obtain ⟨s, hs, hp, hname⟩ := (mem_ownNames_iff batch x).1 hown
      exact .inl ⟨s, hs, hname, hp⟩
    · obtain ⟨l, hl, hname, hport⟩ := link_of_mem_aliasNames hadded hnew
      obtain ⟨t, hfind, hp⟩ := (targetPort_eq_ok_iff batch l x.2).1 hport
      obtain ⟨ht, htarget⟩ := mem_and_name_of_find? hfind
      exact .inr ⟨l, hl, hname, t, ht, htarget, hp⟩
  · obtain ⟨name, p⟩ := x
    rintro (⟨s, hs, rfl, hp⟩ | ⟨l, hl, rfl, t, ht, htarget, hp⟩)
    · exact mem_entries_of_service hs hp
    · exact mem_entries_of_link hbatch hadded hl ht htarget hp

/-- Batches of the same matter that are accepted give the same network services. -/
theorem SameMatter.perm_of_resolve {batch other : List Service} (h : SameMatter batch other)
    {externalIps : List String} {services services' : List NetworkService}
    (hok : resolve externalIps batch = .ok services)
    (hok' : resolve externalIps other = .ok services') : services.Perm services' := by
  have hbatch := unambiguous_of_resolve hok
  have hother := unambiguous_of_resolve hok'
  obtain ⟨added, -, hadded, rfl⟩ := resolve_eq_ok hok
  obtain ⟨added', -, hadded', rfl⟩ := resolve_eq_ok hok'
  apply List.Perm.map
  rw [List.perm_ext_iff_of_nodup (nodup_map_fst_entries hbatch hadded).of_map
    (nodup_map_fst_entries hother hadded').of_map]
  intro x
  rw [mem_entries_iff hbatch hadded, mem_entries_iff hother hadded']
  exact ⟨h.leadsTo, h.symm.leadsTo⟩

/-! ## The answers -/

/-- Both errors are conflicts, or both are failed validations. -/
inductive SameVariant : Error → Error → Prop
  | conflict (message message' : String) : SameVariant (.conflict message) (.conflict message')
  | validation (message message' : String) : SameVariant (.validation message) (.validation message')

/-- The order of services and links decides neither whether a batch is accepted nor, if it is not, of
which variant the error is. What is made of an accepted batch are the same network services in some
order. -/
theorem resolve_reordered (externalIps : List String) {batch other : List Service}
    (h : Reordered batch other) :
    (∃ services services', resolve externalIps batch = .ok services ∧
      resolve externalIps other = .ok services' ∧ services.Perm services') ∨
    ∃ r r', resolve externalIps batch = .error r ∧ resolve externalIps other = .error r' ∧
      SameVariant r.toError r'.toError := by
  have hmatter := h.sameMatter
  by_cases hbatch : Unambiguous batch
  · obtain ⟨services, hok⟩ := (exists_resolve_iff externalIps batch).2 hbatch
    obtain ⟨services', hok'⟩ := (exists_resolve_iff externalIps other).2 (hmatter.unambiguous hbatch)
    exact .inl ⟨services, services', hok, hok', hmatter.perm_of_resolve hok hok'⟩
  · have hrejected : ∀ {b : List Service}, ¬ Unambiguous b →
        ∃ r, resolve externalIps b = .error r := by
      intro b hb
      cases hanswer : resolve externalIps b with
      | ok services => exact absurd (unambiguous_of_resolve hanswer) hb
      | error r => exact ⟨r, rfl⟩
    obtain ⟨r, hr⟩ := hrejected hbatch
    obtain ⟨r', hr'⟩ := hrejected fun hother => hbatch (hmatter.symm.unambiguous hother)
    refine .inr ⟨r, r', hr, hr', ?_⟩
    rcases toError_of_rejected hr with ⟨hports, message, he⟩ | ⟨hports, message, he⟩ <;>
      rcases toError_of_rejected hr' with ⟨hports', message', he'⟩ | ⟨hports', message', he'⟩
    · rw [he, he']
      exact .conflict message message'
    · rw [hmatter.hasManyPorts_eq, hports'] at hports
      contradiction
    · rw [hmatter.hasManyPorts_eq, hports'] at hports
      contradiction
    · rw [he, he']
      exact .validation message message'

/-- The database first, and the links of the blog the other way round. -/
def turnedBlog : List Service := [
  { name := "DB", ports := [⟨0, 3306, ""⟩] },
  { name := "worker", links := [⟨"DB", "db-1"⟩] },
  { name := "Blog", ports := [⟨8080, 80, "tcp"⟩], links := [⟨"DB", "DB_1"⟩, ⟨"DB", "db"⟩] }]

/-- The turned batch is the other one in another order. -/
theorem reordered_turnedBlog : Reordered blog turnedBlog := by
  refine ⟨turnedBlog.reverse, ?_, List.reverse_perm turnedBlog⟩
  refine .cons ⟨_, ?_, rfl⟩ (.cons ⟨_, .refl _, rfl⟩ (.cons ⟨_, .refl _, rfl⟩ .nil))
  exact .swap _ _ _

/-- A batch and its turned form have the same network services, in another order. -/
theorem resolve_reordered_turnedBlog :
    ∃ services services', resolve [] blog = .ok services ∧ resolve [] turnedBlog = .ok services' ∧
      services.map (·.metadata.name) = [some "blog", some "db", some "db-1"] ∧
      services'.map (·.metadata.name) = [some "db", some "blog", some "db-1"] ∧
      services.Perm services' := by
  have h : resolve [] blog = .ok [networkService [] "blog" ⟨8080, 80, "tcp"⟩,
      networkService [] "db" ⟨0, 3306, ""⟩, networkService [] "db-1" ⟨0, 3306, ""⟩] := by rfl
  have h' : resolve [] turnedBlog = .ok [networkService [] "db" ⟨0, 3306, ""⟩,
      networkService [] "blog" ⟨8080, 80, "tcp"⟩, networkService [] "db-1" ⟨0, 3306, ""⟩] := by rfl
  rcases resolve_reordered [] reordered_turnedBlog with
    ⟨services, services', hok, hok', hperm⟩ | ⟨r, r', hr, -, -⟩
  · obtain rfl := Except.ok.inj (h.symm.trans hok)
    obtain rfl := Except.ok.inj (h'.symm.trans hok')
    exact ⟨_, _, h, h', rfl, rfl, hperm⟩
  · rw [h] at hr
    contradiction

end Stevedore.Exposure
