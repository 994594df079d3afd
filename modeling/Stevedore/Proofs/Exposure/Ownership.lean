import Stevedore.Exposure
import Mathlib.Data.List.Nodup
/-!
# Owners of network names

What the checks on a batch establish, said without the order in which they look at services and
links: a batch that passes them gives every network name to one service only.

Main results:

- Theorem `firstTakenAlias_eq_none_iff`: no alias is refused exactly if every link agrees with the
  owners at the start and all links agree among themselves.
- Theorem `firstTakenName_eq_none_iff`: no name is refused exactly if no two are equal.
- Theorem `unambiguous_of_resolve`: a batch that is resolved is `Unambiguous`.
-/

namespace Stevedore.Exposure

open Cluster

/-- The network name that a link adds. -/
def addedName (l : Link) : String := Name.sanitize l.aliasName

/-- Links that add one network name lead to one service. -/
def Agreeing (links : List Link) : Prop :=
  ∀ l ∈ links, ∀ l' ∈ links, addedName l = addedName l' → l.target = l'.target

/-- A batch in which every network name stands for one service, and that one maps a port. -/
structure Unambiguous (batch : List Service) : Prop where
  /-- No service maps more than one port. -/
  ports_le : ∀ s ∈ batch, s.ports.length ≤ 1
  /-- Services differ in their network names. -/
  names_nodup : (batch.map fun s => Name.sanitize s.name).Nodup
  /-- An alias that is the network name of a port-mapping service leads there. -/
  own_target : ∀ l ∈ aliasedLinks batch, ∀ s ∈ batch, s.ports ≠ [] →
    addedName l = Name.sanitize s.name → l.target = s.name
  /-- Aliases that become one network name lead to one service. -/
  agreeing : Agreeing (aliasedLinks batch)
  /-- Links with an alias lead to port-mapping services. -/
  target_maps : ∀ l ∈ aliasedLinks batch, ∃ t ∈ batch, t.name = l.target ∧ t.ports ≠ []

/-! ## The passes over a batch -/

/-- No service of the batch maps more than one port. -/
theorem hasManyPorts_eq_false_iff (batch : List Service) :
    hasManyPorts batch = false ↔ ∀ s ∈ batch, s.ports.length ≤ 1 := by
  simp [hasManyPorts]

/-- A link agrees with those after it if they lead where it does under its name. -/
theorem agreeing_cons_iff (l : Link) (rest : List Link) :
    Agreeing (l :: rest) ↔
      (∀ l' ∈ rest, addedName l' = addedName l → l'.target = l.target) ∧ Agreeing rest := by
  constructor
  · intro h
    refine ⟨?_, ?_⟩
    · intro l' hl' hname
      exact h l' (List.mem_cons_of_mem l hl') l List.mem_cons_self hname
    · intro a ha b hb hname
      exact h a (List.mem_cons_of_mem l ha) b (List.mem_cons_of_mem l hb) hname
  · rintro ⟨hfirst, hrest⟩ a ha b hb hname
    rcases List.mem_cons.1 ha with rfl | harest
    · rcases List.mem_cons.1 hb with rfl | hbrest
      · rfl
      · exact (hfirst b hbrest hname.symm).symm
    · rcases List.mem_cons.1 hb with rfl | hbrest
      · exact hfirst a harest hname
      · exact hrest a harest b hbrest hname

/-- If the name of a link has an owner, the link is an offence unless the owner is its target. -/
theorem firstTakenAlias_cons_of_lookup {owners : Owners} {l : Link} {owner : String}
    (h : owners.lookup (addedName l) = some owner) (rest : List Link) :
    firstTakenAlias owners (l :: rest) =
      if owner = l.target then firstTakenAlias owners rest else some l.aliasName := by
  unfold addedName at h
  simp only [firstTakenAlias, h]

/-- If the name of a link has no owner, the link's target owns it from then on. -/
theorem firstTakenAlias_cons_of_lookup_eq_none {owners : Owners} {l : Link}
    (h : owners.lookup (addedName l) = none) (rest : List Link) :
    firstTakenAlias owners (l :: rest) =
      firstTakenAlias ((addedName l, l.target) :: owners) rest := by
  unfold addedName at h ⊢
  simp only [firstTakenAlias, h]

/-- Without a refusal every link agrees with the owners so far and with all other links. -/
theorem firstTakenAlias_eq_none_iff (owners : Owners) (links : List Link) :
    firstTakenAlias owners links = none ↔
      (∀ l ∈ links, ∀ owner, owners.lookup (addedName l) = some owner → l.target = owner) ∧
        Agreeing links := by
  induction links generalizing owners with
  | nil => simp [firstTakenAlias, Agreeing]
  | cons l rest ih =>
      rw [agreeing_cons_iff]
      cases hl : owners.lookup (addedName l) with
      | some owner =>
          rw [firstTakenAlias_cons_of_lookup hl]
          by_cases howner : owner = l.target
          · subst howner
            simp only [if_true, ih, List.forall_mem_cons, hl, Option.some.injEq, forall_eq']
            constructor
            · rintro ⟨hown, hagree⟩
              refine ⟨⟨trivial, hown⟩, ?_, hagree⟩
              intro l' hl' hname
              exact hown l' hl' l.target (hname ▸ hl)
            · rintro ⟨⟨-, hown⟩, -, hagree⟩
              exact ⟨hown, hagree⟩
          · simp only [if_neg howner, reduceCtorEq, false_iff]
            rintro ⟨hown, -⟩
            exact howner (hown l List.mem_cons_self owner hl).symm
      | none =>
          rw [firstTakenAlias_cons_of_lookup_eq_none hl]
          simp only [ih, List.forall_mem_cons, hl, reduceCtorEq, false_implies, implies_true,
            true_and]
          constructor
          · rintro ⟨hown, hagree⟩
            refine ⟨?_, ?_, hagree⟩
            · intro l' hl' owner howner
              by_cases hname : addedName l' = addedName l
              · rw [hname, hl] at howner
                contradiction
              · refine hown l' hl' owner ?_
                rw [List.lookup_cons, beq_false_of_ne hname]
                exact howner
            · intro l' hl' hname
              refine hown l' hl' l.target ?_
              rw [hname, List.lookup_cons_self]
          · rintro ⟨hown, hsame, hagree⟩
            refine ⟨?_, hagree⟩
            intro l' hl' owner howner
            by_cases hname : addedName l' = addedName l
            · rw [hname, List.lookup_cons_self, Option.some.injEq] at howner
              rw [hsame l' hl' hname, howner]
            · rw [List.lookup_cons, beq_false_of_ne hname] at howner
              exact hown l' hl' owner howner

/-- Without a refusal the network names are new and differ from one another. -/
theorem firstTakenName_eq_none_iff (seen : List String) (batch : List Service) :
    firstTakenName seen batch = none ↔
      (batch.map fun s => Name.sanitize s.name).Nodup ∧
        ∀ s ∈ batch, Name.sanitize s.name ∉ seen := by
  induction batch generalizing seen with
  | nil => simp [firstTakenName]
  | cons s rest ih =>
      simp only [firstTakenName]
      by_cases hs : Name.sanitize s.name ∈ seen
      · simp [hs]
      · have hnew : seen.contains (Name.sanitize s.name) = false := by simpa using hs
        rw [hnew, if_neg (by simp), ih]
        simp only [List.map_cons, List.nodup_cons, List.mem_map, not_exists, not_and,
          List.mem_cons, not_or, forall_eq_or_imp]
        constructor
        · rintro ⟨hnodup, hrest⟩
          exact ⟨⟨fun t ht => (hrest t ht).1, hnodup⟩, hs, fun t ht => (hrest t ht).2⟩
        · rintro ⟨⟨hne, hnodup⟩, -, hrest⟩
          exact ⟨hnodup, fun t ht => ⟨hne t ht, hrest t ht⟩⟩

/-- A batch passes the check exactly if no service has many ports, no alias is taken and no name is
repeated. -/
theorem check_eq_ok_iff (batch : List Service) :
    check batch = .ok () ↔
      hasManyPorts batch = false ∧
        firstTakenAlias (ownOwners batch) (aliasedLinks batch) = none ∧
          firstTakenName [] batch = none := by
  unfold check
  cases hports : hasManyPorts batch with
  | true => simp
  | false =>
      cases halias : firstTakenAlias (ownOwners batch) (aliasedLinks batch) with
      | some a => simp
      | none => cases hname : firstTakenName [] batch <;> simp

/-! ## Targets of links -/

/-- A link has a port exactly if its target is a service of the batch that maps one. -/
theorem targetPort_eq_ok_iff (batch : List Service) (l : Link) (p : Port) :
    targetPort batch l = .ok p ↔ ∃ t, find? batch l.target = some t ∧ t.ports.head? = some p := by
  unfold targetPort
  cases hfind : find? batch l.target with
  | none => simp
  | some t => cases hport : t.ports.head? <;> simp [hport]

/-- What is found under a name is a service of the batch with this name. -/
theorem mem_and_name_of_find? {batch : List Service} {name : String} {t : Service}
    (h : find? batch name = some t) : t ∈ batch ∧ t.name = name := by
  unfold find? at h
  constructor
  · exact List.mem_reverse.1 (List.mem_of_find?_eq_some h)
  · simpa using List.find?_some h

/-- Services of one network name are one service. -/
theorem eq_of_sanitize_eq {batch : List Service}
    (hnames : (batch.map fun s => Name.sanitize s.name).Nodup) {s t : Service} (hs : s ∈ batch)
    (ht : t ∈ batch) (h : Name.sanitize s.name = Name.sanitize t.name) : s = t :=
  List.inj_on_of_nodup_map hnames hs ht h

/-- Where names differ, the owner of a port-mapping service's network name is that service. -/
theorem lookup_ownOwners {batch : List Service}
    (hnames : (batch.map fun s => Name.sanitize s.name).Nodup) {s : Service} (hs : s ∈ batch)
    (hports : s.ports ≠ []) :
    (ownOwners batch).lookup (Name.sanitize s.name) = some s.name := by
  have hmem : (Name.sanitize s.name, s.name) ∈ ownOwners batch := by
    simp only [ownOwners, List.mem_reverse, List.mem_map, List.mem_filter]
    exact ⟨s, ⟨hs, by simpa using hports⟩, rfl⟩
  rcases List.append_of_mem hmem with ⟨before, after, hsplit⟩
  refine List.lookup_eq_some_iff.2 ⟨before, after, hsplit, ?_⟩
  intro entry hentry
  have hother : entry ∈ ownOwners batch := by
    rw [hsplit]
    exact List.mem_append_left _ hentry
  have hkeys : ((ownOwners batch).map (·.1)).Nodup := by
    have hsub : ((batch.filter fun s => !s.ports.isEmpty).map fun s => Name.sanitize s.name).Nodup :=
      hnames.sublist (List.filter_sublist.map _)
    simpa [ownOwners, Function.comp_def] using hsub
  rw [hsplit, List.map_append, List.nodup_append] at hkeys
  have hne := hkeys.2.2 entry.1 (List.mem_map_of_mem hentry) (Name.sanitize s.name) (by simp)
  simpa using Ne.symm hne

/-! ## Names that links add -/

/-- A link leads to a port; it adds that port under its name unless the name is there already. -/
theorem aliasNames_cons_eq_ok {batch : List Service} {seen : List String} {l : Link}
    {rest : List Link} {added : List (String × Port)}
    (h : aliasNames batch seen (l :: rest) = .ok added) :
    ∃ p, targetPort batch l = .ok p ∧
      ((addedName l ∈ seen ∧ aliasNames batch seen rest = .ok added) ∨
        (addedName l ∉ seen ∧ ∃ more, aliasNames batch (addedName l :: seen) rest = .ok more ∧
          added = (addedName l, p) :: more)) := by
  unfold aliasNames at h
  cases hport : targetPort batch l with
  | error r => simp [hport] at h
  | ok p =>
      refine ⟨p, rfl, ?_⟩
      change Name.sanitize l.aliasName ∈ seen ∧ _ ∨ Name.sanitize l.aliasName ∉ seen ∧ _
      by_cases hseen : Name.sanitize l.aliasName ∈ seen
      · simp only [hport, List.contains_iff_mem.2 hseen, if_true] at h
        exact .inl ⟨hseen, h⟩
      · cases hmore : aliasNames batch (Name.sanitize l.aliasName :: seen) rest with
        | error r => simp [hport, hseen, hmore] at h
        | ok more =>
            simp only [hport, hmore, List.contains_iff_mem, hseen, if_false, Except.ok.injEq] at h
            exact .inr ⟨hseen, more, hmore, h.symm⟩

/-- If all alias names were resolved, every link leads to a port. -/
theorem targetPort_of_aliasNames {batch : List Service} {seen : List String} {links : List Link}
    {added : List (String × Port)} (h : aliasNames batch seen links = .ok added) {l : Link}
    (hl : l ∈ links) : ∃ p, targetPort batch l = .ok p := by
  induction links generalizing seen added with
  | nil => contradiction
  | cons first rest ih =>
      rcases aliasNames_cons_eq_ok h with ⟨p, hp, ⟨-, hrest⟩ | ⟨-, more, hrest, -⟩⟩
      · rcases List.mem_cons.1 hl with rfl | hl
        · exact ⟨p, hp⟩
        · exact ih hrest hl
      · rcases List.mem_cons.1 hl with rfl | hl
        · exact ⟨p, hp⟩
        · exact ih hrest hl

/-- What is added comes from a link, with the port that the link leads to. -/
theorem link_of_mem_aliasNames {batch : List Service} {seen : List String} {links : List Link}
    {added : List (String × Port)} (h : aliasNames batch seen links = .ok added) {x : String × Port}
    (hx : x ∈ added) : ∃ l ∈ links, addedName l = x.1 ∧ targetPort batch l = .ok x.2 := by
  induction links generalizing seen added with
  | nil =>
      simp only [aliasNames, Except.ok.injEq] at h
      simp [← h] at hx
  | cons first rest ih =>
      rcases aliasNames_cons_eq_ok h with ⟨p, hp, ⟨-, hrest⟩ | ⟨-, more, hrest, rfl⟩⟩
      · rcases ih hrest hx with ⟨l, hl, hname⟩
        exact ⟨l, List.mem_cons_of_mem first hl, hname⟩
      · rcases List.mem_cons.1 hx with rfl | hx
        · exact ⟨first, List.mem_cons_self, rfl, hp⟩
        · rcases ih hrest hx with ⟨l, hl, hname⟩
          exact ⟨l, List.mem_cons_of_mem first hl, hname⟩

/-- The names that are added: those not there before, each where it occurs first. -/
theorem map_fst_aliasNames {batch : List Service} {seen : List String} {links : List Link}
    {added : List (String × Port)} (h : aliasNames batch seen links = .ok added) :
    added.map (·.1) = ((links.map addedName).filter fun n => !seen.contains n).eraseDups := by
  induction links generalizing seen added with
  | nil =>
      simp only [aliasNames, Except.ok.injEq] at h
      simp [← h]
  | cons first rest ih =>
      rcases aliasNames_cons_eq_ok h with ⟨p, -, ⟨hseen, hrest⟩ | ⟨hseen, more, hrest, rfl⟩⟩
      · simp [ih hrest, hseen]
      · rw [List.map_cons, List.map_cons, List.filter_cons_of_pos (by simpa using hseen),
          List.eraseDups_cons, ih hrest, List.filter_filter]
        congr 3
        funext n
        rw [Bool.eq_iff_iff]
        simp [and_comm]

/-! ## Resolution -/

/-- A batch that is resolved passes the check, and its network services are those of the own names
and of the alias names. -/
theorem resolve_eq_ok {externalIps : List String} {batch : List Service}
    {services : List NetworkService} (h : resolve externalIps batch = .ok services) :
    ∃ added, check batch = .ok () ∧
      aliasNames batch ((ownNames batch).map (·.1)) (aliasedLinks batch) = .ok added ∧
      services = (ownNames batch ++ added).map fun x => networkService externalIps x.1 x.2 := by
  unfold resolve names at h
  cases hcheck : check batch with
  | error r => simp [hcheck] at h
  | ok _ =>
      cases hadded : aliasNames batch ((ownNames batch).map (·.1)) (aliasedLinks batch) with
      | error r => simp [hcheck, hadded] at h
      | ok added =>
          simp only [hcheck, hadded, Except.ok.injEq] at h
          exact ⟨added, rfl, rfl, h.symm⟩

/-- A batch that is resolved leaves no network name in doubt. -/
theorem unambiguous_of_resolve {externalIps : List String} {batch : List Service}
    {services : List NetworkService} (h : resolve externalIps batch = .ok services) :
    Unambiguous batch := by
  rcases resolve_eq_ok h with ⟨added, hcheck, hadded, -⟩
  rcases (check_eq_ok_iff batch).1 hcheck with ⟨hports, halias, hname⟩
  have hnames := ((firstTakenName_eq_none_iff [] batch).1 hname).1
  rcases (firstTakenAlias_eq_none_iff _ _).1 halias with ⟨howner, hagree⟩
  refine ⟨(hasManyPorts_eq_false_iff batch).1 hports, hnames, ?_, hagree, ?_⟩
  · intro l hl s hs hsports hsame
    refine howner l hl s.name ?_
    rw [hsame]
    exact lookup_ownOwners hnames hs hsports
  · intro l hl
    rcases targetPort_of_aliasNames hadded hl with ⟨p, hp⟩
    rcases (targetPort_eq_ok_iff batch l p).1 hp with ⟨t, hfind, hport⟩
    rcases mem_and_name_of_find? hfind with ⟨ht, hname⟩
    refine ⟨t, ht, hname, ?_⟩
    intro hnil
    simp [hnil] at hport

end Stevedore.Exposure
