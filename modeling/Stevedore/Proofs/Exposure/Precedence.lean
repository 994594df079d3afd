import Stevedore.Proofs.Exposure.Ownership
/-!
# Which batches are rejected, and why

A batch may offend in several ways at once. What is reported is decided by an order among the
reasons, and for one reason by an order among the services and links of the batch. Both are said
here without the passes that look for them.

Main results:

- Theorem `FirstOffender.unique`: a list has one first offender at most.
- Theorem `reported_resolve`: the answer of the resolver is the one that `Reported` describes.
- Theorem `Reported.unique`: there is one such answer only.
- Theorem `resolve_precedence`: each error exactly when it is due, and when a batch is accepted.
-/

namespace Stevedore.Exposure

open Cluster

/-! ## First offenders -/

/-- No item of a list offends, given the items before it. -/
def NoOffender (Offends : List α → α → Prop) (items : List α) : Prop :=
  ∀ before a after, items = before ++ a :: after → ¬ Offends before a

/-- The item of a list that offends, given the items before it, while none of those does. -/
def FirstOffender (Offends : List α → α → Prop) (items : List α) (a : α) : Prop :=
  ∃ before after, items = before ++ a :: after ∧ Offends before a ∧ NoOffender Offends before

section Offenders

variable {Offends : List α → α → Prop} {items rest : List α} {a b : α}

theorem noOffender_nil : NoOffender Offends ([] : List α) := by
  intro before a after h
  simp at h

/-- Nothing offends in a list if its first item does not, and none of the others with the first one
before it. -/
theorem noOffender_cons_iff :
    NoOffender Offends (a :: rest) ↔
      ¬ Offends [] a ∧ NoOffender (fun before => Offends (a :: before)) rest := by
  constructor
  · intro h
    refine ⟨h [] a rest rfl, ?_⟩
    rintro before b after rfl
    exact h (a :: before) b after rfl
  · rintro ⟨hfirst, hrest⟩ before b after hsplit
    cases before with
    | nil =>
        obtain ⟨rfl, -⟩ := List.cons.inj hsplit
        exact hfirst
    | cons c before =>
        obtain ⟨rfl, rfl⟩ := List.cons.inj hsplit
        exact hrest before b after rfl

/-- Where offending does not depend on what went before, no item offends if none does by itself. -/
theorem noOffender_const_iff {Offends : α → Prop} :
    NoOffender (fun _ => Offends) items ↔ ∀ a ∈ items, ¬ Offends a := by
  constructor
  · intro h a ha
    obtain ⟨before, after, hsplit⟩ := List.append_of_mem ha
    exact h before a after hsplit
  · rintro h before a after rfl
    exact h a (by simp)

theorem firstOffender_head (h : Offends [] a) : FirstOffender Offends (a :: rest) a :=
  ⟨[], rest, rfl, h, noOffender_nil⟩

/-- A first offender of the rest, with the first item before it, is one of the list if that item
does not offend. -/
theorem FirstOffender.cons (hfirst : ¬ Offends [] a)
    (hrest : FirstOffender (fun before => Offends (a :: before)) rest b) :
    FirstOffender Offends (a :: rest) b := by
  obtain ⟨before, after, rfl, hb, hbefore⟩ := hrest
  exact ⟨a :: before, after, rfl, hb, noOffender_cons_iff.2 ⟨hfirst, hbefore⟩⟩

/-- Where there is a first offender, something offends. -/
theorem FirstOffender.not_noOffender (h : FirstOffender Offends items a) :
    ¬ NoOffender Offends items := by
  obtain ⟨before, after, hsplit, ha, -⟩ := h
  intro hnone
  exact hnone before a after hsplit ha

/-- A list has one first offender at most. -/
theorem FirstOffender.unique (ha : FirstOffender Offends items a)
    (hb : FirstOffender Offends items b) : a = b := by
  obtain ⟨before, after, rfl, hoffends, hbefore⟩ := ha
  obtain ⟨before', after', hsplit, hoffends', hbefore'⟩ := hb
  rcases List.append_eq_append_iff.1 hsplit with ⟨more, rfl, hmore⟩ | ⟨more, rfl, hmore⟩
  · cases more with
    | nil => exact (List.cons.inj hmore).1
    | cons c more =>
        obtain ⟨rfl, -⟩ := List.cons.inj hmore
        exact absurd hoffends (hbefore' before a more rfl)
  · cases more with
    | nil => exact (List.cons.inj hmore).1.symm
    | cons c more =>
        obtain ⟨rfl, -⟩ := List.cons.inj hmore
        exact absurd hoffends' (hbefore before' b more rfl)

end Offenders

/-! ## Claims on network names -/

/-- The port-mapping service that has a network name by itself; of several the last one. -/
def OwnClaim (batch : List Service) (name owner : String) : Prop :=
  ∃ before s after, batch = before ++ s :: after ∧ s.ports ≠ [] ∧ Name.sanitize s.name = name ∧
    s.name = owner ∧ ∀ t ∈ after, t.ports ≠ [] → Name.sanitize t.name ≠ name

/-- A network name is claimed by a port-mapping service, or for the target of a link. -/
def Claims (batch : List Service) (links : List Link) (name owner : String) : Prop :=
  OwnClaim batch name owner ∨ ∃ l ∈ links, addedName l = name ∧ l.target = owner

/-- The network name that a link adds is claimed for another service than its target, if not by a
service itself then by a link before this one. -/
def Contested (batch : List Service) (before : List Link) (l : Link) : Prop :=
  ∃ owner, Claims batch before (addedName l) owner ∧ owner ≠ l.target

/-- The network name of a service is that of one before it. -/
def Repeats (before : List Service) (s : Service) : Prop :=
  ∃ t ∈ before, Name.sanitize t.name = Name.sanitize s.name

/-- No service that a link names maps a port. -/
def DeadEnd (batch : List Service) (l : Link) : Prop :=
  ∀ t ∈ batch, t.name = l.target → t.ports = []

/-- A name is claimed in a list by the last service of this name that maps a port. -/
theorem ownClaim_cons_iff (s : Service) (rest : List Service) (name owner : String) :
    OwnClaim (s :: rest) name owner ↔
      OwnClaim rest name owner ∨
        (∀ t ∈ rest, t.ports ≠ [] → Name.sanitize t.name ≠ name) ∧
          s.ports ≠ [] ∧ Name.sanitize s.name = name ∧ s.name = owner := by
  constructor
  · rintro ⟨before, t, after, hsplit, hports, hname, howner, hlast⟩
    cases before with
    | nil =>
        obtain ⟨rfl, rfl⟩ := List.cons.inj hsplit
        exact .inr ⟨hlast, hports, hname, howner⟩
    | cons u before =>
        obtain ⟨rfl, rfl⟩ := List.cons.inj hsplit
        exact .inl ⟨before, t, after, rfl, hports, hname, howner, hlast⟩
  · rintro (⟨before, t, after, rfl, hclaim⟩ | ⟨hlast, hports, hname, howner⟩)
    · exact ⟨s :: before, t, after, rfl, hclaim⟩
    · exact ⟨[], s, rest, rfl, hports, hname, howner, hlast⟩

/-- The owners of the names of a list are those of its rest, and after them that of its first
service. -/
theorem ownOwners_cons (s : Service) (rest : List Service) :
    ownOwners (s :: rest) =
      ownOwners rest ++ if s.ports = [] then [] else [(Name.sanitize s.name, s.name)] := by
  unfold ownOwners
  cases hports : s.ports <;> simp [hports]

/-- A name has no owner exactly if no service that maps a port has this name. -/
theorem lookup_ownOwners_eq_none_iff (batch : List Service) (name : String) :
    (ownOwners batch).lookup name = none ↔
      ∀ t ∈ batch, t.ports ≠ [] → Name.sanitize t.name ≠ name := by
  rw [List.lookup_eq_none_iff]
  simp only [ownOwners, List.mem_reverse, List.mem_map, List.mem_filter]
  constructor
  · intro h t ht hports hname
    have hne := h (Name.sanitize t.name, t.name) ⟨t, ⟨ht, by simpa using hports⟩, rfl⟩
    simp [hname] at hne
  · rintro h _ ⟨t, ⟨ht, hports⟩, rfl⟩
    exact bne_iff_ne.2 (Ne.symm (h t ht (by simpa using hports)))

/-- The owner at the start is the service that claims the name by itself. -/
theorem lookup_ownOwners_eq_some_iff (batch : List Service) (name owner : String) :
    (ownOwners batch).lookup name = some owner ↔ OwnClaim batch name owner := by
  induction batch with
  | nil => simp [ownOwners, OwnClaim]
  | cons s rest ih =>
      rw [ownOwners_cons, List.lookup_append, Option.or_eq_some_iff, ih, ownClaim_cons_iff,
        lookup_ownOwners_eq_none_iff]
      by_cases hports : s.ports = []
      · simp [hports]
      · by_cases hname : Name.sanitize s.name = name
        · simp [hports, hname]
        · have hother : (name == Name.sanitize s.name) = false := beq_false_of_ne (Ne.symm hname)
          simp [hports, hname, List.lookup_cons, hother]

/-! ## The passes over a batch -/

/-- The offence that the scan for taken aliases looks for, with the owners known at its start. -/
def Taken (owners : Owners) (before : List Link) (l : Link) : Prop :=
  ∃ owner, (owners.lookup (addedName l) = some owner ∨
    ∃ b ∈ before, addedName b = addedName l ∧ b.target = owner) ∧ owner ≠ l.target

/-- An alias is taken among the owners exactly if it is contested in the batch. -/
theorem taken_ownOwners (batch : List Service) : Taken (ownOwners batch) = Contested batch := by
  funext before l
  simp only [Taken, Contested, Claims, lookup_ownOwners_eq_some_iff]

/-- A link that agrees with an owner claims nothing new. -/
theorem taken_cons_of_lookup {owners : Owners} {l : Link}
    (h : owners.lookup (addedName l) = some l.target) :
    (fun before => Taken owners (l :: before)) = Taken owners := by
  funext before m
  simp only [Taken, List.mem_cons, exists_eq_or_imp, eq_iff_iff]
  constructor
  · rintro ⟨owner, howner | ⟨hname, rfl⟩ | hbefore, hne⟩
    · exact ⟨owner, .inl howner, hne⟩
    · exact ⟨l.target, .inl (hname ▸ h), hne⟩
    · exact ⟨owner, .inr hbefore, hne⟩
  · rintro ⟨owner, howner | hbefore, hne⟩
    · exact ⟨owner, .inl howner, hne⟩
    · exact ⟨owner, .inr (.inr hbefore), hne⟩

/-- A link to whose name nothing has a claim yet becomes its owner. -/
theorem taken_cons_of_lookup_eq_none {owners : Owners} {l : Link}
    (h : owners.lookup (addedName l) = none) :
    (fun before => Taken owners (l :: before)) = Taken ((addedName l, l.target) :: owners) := by
  funext before m
  simp only [Taken, List.mem_cons, exists_eq_or_imp, eq_iff_iff]
  by_cases hname : addedName l = addedName m
  · rw [hname] at h
    simp [hname, h]
  · have hother : (addedName m == addedName l) = false := beq_false_of_ne (Ne.symm hname)
    simp [List.lookup_cons, hother, hname]

/-- The scan for taken aliases finds the first link that offends. -/
theorem firstTakenAlias_cases (owners : Owners) (links : List Link) :
    (firstTakenAlias owners links = none ∧ NoOffender (Taken owners) links) ∨
      ∃ l, firstTakenAlias owners links = some l.aliasName ∧
        FirstOffender (Taken owners) links l := by
  induction links generalizing owners with
  | nil => exact .inl ⟨rfl, noOffender_nil⟩
  | cons l rest ih =>
      cases hl : owners.lookup (addedName l) with
      | some owner =>
          rw [firstTakenAlias_cons_of_lookup hl]
          by_cases howner : owner = l.target
          · subst howner
            have hfirst : ¬ Taken owners [] l := by
              simp [Taken, hl]
            rw [if_pos rfl, noOffender_cons_iff, taken_cons_of_lookup hl]
            rcases ih owners with ⟨hnone, hrest⟩ | ⟨m, hsome, hm⟩
            · exact .inl ⟨hnone, hfirst, hrest⟩
            · refine .inr ⟨m, hsome, FirstOffender.cons hfirst ?_⟩
              rwa [taken_cons_of_lookup hl]
          · rw [if_neg howner]
            exact .inr ⟨l, rfl, firstOffender_head ⟨owner, .inl hl, howner⟩⟩
      | none =>
          rw [firstTakenAlias_cons_of_lookup_eq_none hl]
          have hfirst : ¬ Taken owners [] l := by
            simp [Taken, hl]
          rw [noOffender_cons_iff, taken_cons_of_lookup_eq_none hl]
          rcases ih ((addedName l, l.target) :: owners) with ⟨hnone, hrest⟩ | ⟨m, hsome, hm⟩
          · exact .inl ⟨hnone, hfirst, hrest⟩
          · refine .inr ⟨m, hsome, FirstOffender.cons hfirst ?_⟩
            rwa [taken_cons_of_lookup_eq_none hl]

/-- The scan for repeated names finds the first service that offends. -/
theorem firstTakenName_cases (seen : List String) (batch : List Service) :
    let Offends := fun before s => Name.sanitize s.name ∈ seen ∨ Repeats before s
    (firstTakenName seen batch = none ∧ NoOffender Offends batch) ∨
      ∃ s, firstTakenName seen batch = some s.name ∧ FirstOffender Offends batch s := by
  intro Offends
  induction batch generalizing seen with
  | nil => exact .inl ⟨rfl, noOffender_nil⟩
  | cons s rest ih =>
      by_cases hs : Name.sanitize s.name ∈ seen
      · refine .inr ⟨s, ?_, firstOffender_head (.inl hs)⟩
        simp [firstTakenName, hs]
      · have hscan : firstTakenName seen (s :: rest) =
            firstTakenName (Name.sanitize s.name :: seen) rest := by
          simp [firstTakenName, hs]
        have hfirst : ¬ Offends [] s := by
          simp [Offends, hs, Repeats]
        have hlater : (fun before => Offends (s :: before)) = fun before t =>
            Name.sanitize t.name ∈ Name.sanitize s.name :: seen ∨ Repeats before t := by
          funext before t
          simp only [Offends, Repeats, List.mem_cons, exists_eq_or_imp, eq_iff_iff]
          rw [eq_comm (a := Name.sanitize t.name), or_left_comm, or_assoc]
        rw [hscan, noOffender_cons_iff, hlater]
        rcases ih (Name.sanitize s.name :: seen) with ⟨hnone, hrest⟩ | ⟨t, hsome, ht⟩
        · exact .inl ⟨hnone, hfirst, hrest⟩
        · refine .inr ⟨t, hsome, FirstOffender.cons hfirst ?_⟩
          rwa [hlater]

/-- A link with a port adds its name, unless the name is there already. -/
theorem aliasNames_cons_of_targetPort {batch : List Service} {l : Link} {p : Port}
    (h : targetPort batch l = .ok p) (seen : List String) (rest : List Link) :
    aliasNames batch seen (l :: rest) =
      if addedName l ∈ seen then aliasNames batch seen rest
      else (aliasNames batch (addedName l :: seen) rest).map ((addedName l, p) :: ·) := by
  by_cases hseen : addedName l ∈ seen
  · have hcontains : seen.contains (Name.sanitize l.aliasName) = true := List.contains_iff_mem.2 hseen
    simp only [aliasNames, h, hcontains, if_true, if_pos hseen]
  · have hnew : Name.sanitize l.aliasName ∉ seen := hseen
    have hcontains : seen.contains (Name.sanitize l.aliasName) = false := by simpa using hnew
    simp only [aliasNames, h, hcontains, Bool.false_eq_true, if_false, if_neg hseen]
    change _ = (aliasNames batch (Name.sanitize l.aliasName :: seen) rest).map _
    cases aliasNames batch (Name.sanitize l.aliasName :: seen) rest <;> rfl

/-- The scan over the targets of links stops at the first that leads to no port. -/
theorem aliasNames_cases (batch : List Service) (seen : List String) (links : List Link) :
    let Offends := fun l => ∃ r, targetPort batch l = .error r
    (∃ added, aliasNames batch seen links = .ok added ∧ NoOffender (fun _ => Offends) links) ∨
      ∃ l r, aliasNames batch seen links = .error r ∧ targetPort batch l = .error r ∧
        FirstOffender (fun _ => Offends) links l := by
  intro Offends
  induction links generalizing seen with
  | nil => exact .inl ⟨[], rfl, noOffender_nil⟩
  | cons l rest ih =>
      cases hport : targetPort batch l with
      | error r =>
          refine .inr ⟨l, r, ?_, hport, firstOffender_head ⟨r, hport⟩⟩
          simp [aliasNames, hport]
      | ok p =>
          have hfirst : ¬ Offends l := by
            simp [Offends, hport]
          rw [aliasNames_cons_of_targetPort hport, noOffender_cons_iff]
          by_cases hseen : addedName l ∈ seen
          · rw [if_pos hseen]
            rcases ih seen with ⟨added, hok, hrest⟩ | ⟨m, r, herror, hm, hrest⟩
            · exact .inl ⟨added, hok, hfirst, hrest⟩
            · exact .inr ⟨m, r, herror, hm, FirstOffender.cons hfirst hrest⟩
          · rw [if_neg hseen]
            rcases ih (addedName l :: seen) with ⟨added, hok, hrest⟩ | ⟨m, r, herror, hm, hrest⟩
            · exact .inl ⟨_, by rw [hok]; rfl, hfirst, hrest⟩
            · exact .inr ⟨m, r, by rw [herror]; rfl, hm, FirstOffender.cons hfirst hrest⟩

/-! ## Targets of links -/

/-- No service is found under a name that none has. -/
theorem find?_eq_none_iff (batch : List Service) (name : String) :
    find? batch name = none ↔ ∀ t ∈ batch, t.name ≠ name := by
  simp [find?]

/-- Where services differ in their network names, the one that is found under a name is the only
one of that name. -/
theorem find?_eq_some_iff {batch : List Service}
    (hnames : (batch.map fun s => Name.sanitize s.name).Nodup) (name : String) (t : Service) :
    find? batch name = some t ↔ t ∈ batch ∧ t.name = name := by
  constructor
  · exact mem_and_name_of_find?
  · rintro ⟨ht, rfl⟩
    cases hfind : find? batch t.name with
    | none => exact absurd rfl ((find?_eq_none_iff batch t.name).1 hfind t ht)
    | some s =>
        obtain ⟨hs, hname⟩ := mem_and_name_of_find? hfind
        rw [eq_of_sanitize_eq hnames hs ht (by rw [hname])]

section Targets

variable {batch : List Service} (hnames : (batch.map fun s => Name.sanitize s.name).Nodup)
  {l : Link}

include hnames

/-- The port of a link is the first one of the service that it names. -/
theorem targetPort_of_target {t : Service} (ht : t ∈ batch) (htarget : t.name = l.target) :
    targetPort batch l =
      match t.ports.head? with
      | none => .error (.portlessTarget l.target)
      | some p => .ok p := by
  have hfind := (find?_eq_some_iff hnames l.target t).2 ⟨ht, htarget⟩
  unfold targetPort
  cases hport : t.ports.head? <;> simp [hfind, hport]

/-- A link leads to no port exactly if it is a dead end. -/
theorem targetPort_eq_error_iff :
    (∃ r, targetPort batch l = .error r) ↔ DeadEnd batch l := by
  by_cases htarget : ∃ t ∈ batch, t.name = l.target
  · obtain ⟨t, ht, hname⟩ := htarget
    rw [targetPort_of_target hnames ht hname]
    have honly : DeadEnd batch l ↔ t.ports = [] := by
      constructor
      · intro h
        exact h t ht hname
      · intro hports u hu huname
        rw [eq_of_sanitize_eq hnames hu ht (by rw [huname, hname])]
        exact hports
    rw [honly]
    cases hports : t.ports <;> simp
  · have hnone : ∀ t ∈ batch, t.name ≠ l.target := by
      intro t ht hname
      exact htarget ⟨t, ht, hname⟩
    unfold targetPort
    rw [(find?_eq_none_iff batch l.target).2 hnone]
    simp only [Except.error.injEq, exists_eq', true_iff]
    intro t ht hname
    exact absurd hname (hnone t ht)

end Targets

/-! ## What is reported -/

/-- The error that is reported for a batch, if any. Of several reasons the first one counts, in the
order given here. -/
inductive Reported (batch : List Service) : Option Error → Prop
  | manyPorts {s : Service} (hs : s ∈ batch) (hports : 1 < s.ports.length) :
      Reported batch (some
        (.conflict "multiple ports from a single container is not currently supported"))
  | aliasTaken {l : Link} (hports : ∀ s ∈ batch, s.ports.length ≤ 1)
      (hfirst : FirstOffender (Contested batch) (aliasedLinks batch) l) :
      Reported batch (some
        (.validation ("multiple services with the same alias name " ++ inQuotes l.aliasName)))
  | nameTaken {s : Service} (hports : ∀ s ∈ batch, s.ports.length ≤ 1)
      (haliases : NoOffender (Contested batch) (aliasedLinks batch))
      (hfirst : FirstOffender Repeats batch s) :
      Reported batch (some
        (.validation ("multiple services with the same name " ++ inQuotes s.name)))
  | unknownTarget {l : Link} (hports : ∀ s ∈ batch, s.ports.length ≤ 1)
      (haliases : NoOffender (Contested batch) (aliasedLinks batch))
      (hnames : NoOffender Repeats batch)
      (hfirst : FirstOffender (fun _ => DeadEnd batch) (aliasedLinks batch) l)
      (hmissing : ∀ t ∈ batch, t.name ≠ l.target) :
      Reported batch (some
        (.validation ("linking to non-existent service " ++ inQuotes l.target)))
  | portlessTarget {l : Link} {t : Service} (hports : ∀ s ∈ batch, s.ports.length ≤ 1)
      (haliases : NoOffender (Contested batch) (aliasedLinks batch))
      (hnames : NoOffender Repeats batch)
      (hfirst : FirstOffender (fun _ => DeadEnd batch) (aliasedLinks batch) l)
      (ht : t ∈ batch) (htarget : t.name = l.target) :
      Reported batch (some
        (.validation ("linked-to service " ++ inQuotes l.target ++ " exposes no ports")))
  | nothing (hports : ∀ s ∈ batch, s.ports.length ≤ 1)
      (haliases : NoOffender (Contested batch) (aliasedLinks batch))
      (hnames : NoOffender Repeats batch)
      (htargets : NoOffender (fun _ => DeadEnd batch) (aliasedLinks batch)) :
      Reported batch none

/-- The error of a batch that the resolver does not accept. -/
def errorOf? (answer : Except Rejection (List NetworkService)) : Option Error :=
  match answer with
  | .ok _ => none
  | .error r => some r.toError

/-- The resolver reports what the first of its passes finds. -/
theorem errorOf?_resolve (externalIps : List String) (batch : List Service) :
    errorOf? (resolve externalIps batch) =
      if hasManyPorts batch then some Rejection.multiplePorts.toError
      else
        match firstTakenAlias (ownOwners batch) (aliasedLinks batch) with
        | some a => some (Rejection.aliasTaken a).toError
        | none =>
          match firstTakenName [] batch with
          | some n => some (Rejection.nameTaken n).toError
          | none =>
            match aliasNames batch ((ownNames batch).map (·.1)) (aliasedLinks batch) with
            | .error r => some r.toError
            | .ok _ => none := by
  unfold resolve names check
  cases hasManyPorts batch with
  | true => rfl
  | false =>
      cases firstTakenAlias (ownOwners batch) (aliasedLinks batch) with
      | some a => rfl
      | none =>
          cases firstTakenName [] batch with
          | some n => rfl
          | none =>
              cases hadded : aliasNames batch ((ownNames batch).map (·.1)) (aliasedLinks batch) <;>
                simp [hadded, errorOf?]

/-- If no name is repeated, the names are distinct. -/
theorem nodup_of_noOffender_repeats {batch : List Service} (h : NoOffender Repeats batch) :
    (batch.map fun s => Name.sanitize s.name).Nodup := by
  rcases firstTakenName_cases [] batch with ⟨hnone, -⟩ | ⟨s, -, hs⟩
  · exact ((firstTakenName_eq_none_iff [] batch).1 hnone).1
  · simp only [List.not_mem_nil, false_or] at hs
    exact absurd h hs.not_noOffender

/-- What the last pass finds at the first link that leads to no port. -/
theorem reported_of_targetPort {batch : List Service} {l : Link} {r : Rejection}
    (hports : ∀ s ∈ batch, s.ports.length ≤ 1)
    (haliases : NoOffender (Contested batch) (aliasedLinks batch))
    (hnames : NoOffender Repeats batch)
    (hfirst : FirstOffender (fun _ => DeadEnd batch) (aliasedLinks batch) l)
    (hr : targetPort batch l = .error r) : Reported batch (some r.toError) := by
  have hnodup := nodup_of_noOffender_repeats hnames
  by_cases htarget : ∃ t ∈ batch, t.name = l.target
  · obtain ⟨t, ht, hname⟩ := htarget
    rw [targetPort_of_target hnodup ht hname] at hr
    cases hport : t.ports.head? with
    | none =>
        obtain rfl : Rejection.portlessTarget l.target = r := by simpa [hport] using hr
        exact .portlessTarget hports haliases hnames hfirst ht hname
    | some p => simp [hport] at hr
  · have hmissing : ∀ t ∈ batch, t.name ≠ l.target := by
      intro t ht hname
      exact htarget ⟨t, ht, hname⟩
    obtain rfl : Rejection.unknownTarget l.target = r := by
      simpa [targetPort, (find?_eq_none_iff batch l.target).2 hmissing] using hr
    exact .unknownTarget hports haliases hnames hfirst hmissing

/-- The answer of the resolver is the one that is due. -/
theorem reported_resolve (externalIps : List String) (batch : List Service) :
    Reported batch (errorOf? (resolve externalIps batch)) := by
  rw [errorOf?_resolve]
  cases hcheck : hasManyPorts batch with
  | true =>
      obtain ⟨s, hs, hports⟩ : ∃ s ∈ batch, 1 < s.ports.length := by
        simpa [hasManyPorts] using hcheck
      exact .manyPorts hs hports
  | false =>
      have hports := (hasManyPorts_eq_false_iff batch).1 hcheck
      have halias := firstTakenAlias_cases (ownOwners batch) (aliasedLinks batch)
      rw [taken_ownOwners] at halias
      have hname := firstTakenName_cases [] batch
      simp only [List.not_mem_nil, false_or] at hname
      rcases halias with ⟨hnone, haliases⟩ | ⟨l, hsome, hl⟩
      · rcases hname with ⟨hnone', hnames⟩ | ⟨s, hsome, hs⟩
        · have htargets :=
            aliasNames_cases batch ((ownNames batch).map (·.1)) (aliasedLinks batch)
          simp only [targetPort_eq_error_iff (nodup_of_noOffender_repeats hnames)] at htargets
          rcases htargets with ⟨added, hok, hdead⟩ | ⟨l, r, herror, hr, hl⟩
          · simpa [hnone, hnone', hok] using Reported.nothing hports haliases hnames hdead
          · simpa [hnone, hnone', herror] using
              reported_of_targetPort hports haliases hnames hl hr
        · simp only [hnone, hsome, Bool.false_eq_true, if_false]
          exact .nameTaken hports haliases hs
      · simp only [hsome, Bool.false_eq_true, if_false]
        exact .aliasTaken hports hl

/-- One answer only is due. -/
theorem Reported.unique {batch : List Service} {answer answer' : Option Error}
    (h : Reported batch answer) (h' : Reported batch answer') : answer = answer' := by
  have hexcess : ∀ {s : Service}, s ∈ batch → 1 < s.ports.length →
      ¬ ∀ s ∈ batch, s.ports.length ≤ 1 := by
    intro s hs hmany hports
    have hle := hports s hs
    omega
  cases h with
  | manyPorts hs hmany =>
      cases h' with
      | manyPorts _ _ => rfl
      | aliasTaken hports _ => exact absurd hports (hexcess hs hmany)
      | nameTaken hports _ _ => exact absurd hports (hexcess hs hmany)
      | unknownTarget hports _ _ _ _ => exact absurd hports (hexcess hs hmany)
      | portlessTarget hports _ _ _ _ _ => exact absurd hports (hexcess hs hmany)
      | nothing hports _ _ _ => exact absurd hports (hexcess hs hmany)
  | aliasTaken hports hfirst =>
      cases h' with
      | manyPorts hs hmany => exact absurd hports (hexcess hs hmany)
      | aliasTaken _ hfirst' => rw [hfirst.unique hfirst']
      | nameTaken _ haliases _ => exact absurd haliases hfirst.not_noOffender
      | unknownTarget _ haliases _ _ _ => exact absurd haliases hfirst.not_noOffender
      | portlessTarget _ haliases _ _ _ _ => exact absurd haliases hfirst.not_noOffender
      | nothing _ haliases _ _ => exact absurd haliases hfirst.not_noOffender
  | nameTaken hports haliases hfirst =>
      cases h' with
      | manyPorts hs hmany => exact absurd hports (hexcess hs hmany)
      | aliasTaken _ hfirst' => exact absurd haliases hfirst'.not_noOffender
      | nameTaken _ _ hfirst' => rw [hfirst.unique hfirst']
      | unknownTarget _ _ hnames _ _ => exact absurd hnames hfirst.not_noOffender
      | portlessTarget _ _ hnames _ _ _ => exact absurd hnames hfirst.not_noOffender
      | nothing _ _ hnames _ => exact absurd hnames hfirst.not_noOffender
  | unknownTarget hports haliases hnames hfirst hmissing =>
      cases h' with
      | manyPorts hs hmany => exact absurd hports (hexcess hs hmany)
      | aliasTaken _ hfirst' => exact absurd haliases hfirst'.not_noOffender
      | nameTaken _ _ hfirst' => exact absurd hnames hfirst'.not_noOffender
      | unknownTarget _ _ _ hfirst' _ => rw [hfirst.unique hfirst']
      | portlessTarget _ _ _ hfirst' ht htarget =>
          obtain rfl := hfirst.unique hfirst'
          exact absurd htarget (hmissing _ ht)
      | nothing _ _ _ htargets => exact absurd htargets hfirst.not_noOffender
  | portlessTarget hports haliases hnames hfirst ht htarget =>
      cases h' with
      | manyPorts hs hmany => exact absurd hports (hexcess hs hmany)
      | aliasTaken _ hfirst' => exact absurd haliases hfirst'.not_noOffender
      | nameTaken _ _ hfirst' => exact absurd hnames hfirst'.not_noOffender
      | unknownTarget _ _ _ hfirst' hmissing =>
          obtain rfl := hfirst.unique hfirst'
          exact absurd htarget (hmissing _ ht)
      | portlessTarget _ _ _ hfirst' _ _ => rw [hfirst.unique hfirst']
      | nothing _ _ _ htargets => exact absurd htargets hfirst.not_noOffender
  | nothing hports haliases hnames htargets =>
      cases h' with
      | manyPorts hs hmany => exact absurd hports (hexcess hs hmany)
      | aliasTaken _ hfirst' => exact absurd haliases hfirst'.not_noOffender
      | nameTaken _ _ hfirst' => exact absurd hnames hfirst'.not_noOffender
      | unknownTarget _ _ _ hfirst' _ => exact absurd htargets hfirst'.not_noOffender
      | portlessTarget _ _ _ hfirst' _ _ => exact absurd htargets hfirst'.not_noOffender
      | nothing _ _ _ _ => rfl

/-! ## When a batch is accepted -/

theorem errorOf?_eq_some_iff (answer : Except Rejection (List NetworkService)) (e : Error) :
    errorOf? answer = some e ↔ ∃ r, answer = .error r ∧ r.toError = e := by
  cases answer <;> simp [errorOf?]

theorem errorOf?_eq_none_iff (answer : Except Rejection (List NetworkService)) :
    errorOf? answer = none ↔ ∃ services, answer = .ok services := by
  cases answer <;> simp [errorOf?]

/-- If the names are distinct, none is repeated. -/
theorem noOffender_repeats_of_nodup {batch : List Service}
    (h : (batch.map fun s => Name.sanitize s.name).Nodup) : NoOffender Repeats batch := by
  have hnone := (firstTakenName_eq_none_iff [] batch).2 ⟨h, by simp⟩
  rcases firstTakenName_cases [] batch with ⟨-, hclean⟩ | ⟨s, hsome, -⟩
  · simpa using hclean
  · rw [hnone] at hsome
    contradiction

/-- Without a contested link all claims on a network name agree. -/
theorem noOffender_contested_iff (batch : List Service) :
    NoOffender (Contested batch) (aliasedLinks batch) ↔
      ∀ name a b, Claims batch (aliasedLinks batch) name a →
        Claims batch (aliasedLinks batch) name b → a = b := by
  constructor
  · intro h
    have hscan := firstTakenAlias_cases (ownOwners batch) (aliasedLinks batch)
    rw [taken_ownOwners] at hscan
    rcases hscan with ⟨hnone, -⟩ | ⟨l, -, hl⟩
    · obtain ⟨hown, hagree⟩ := (firstTakenAlias_eq_none_iff _ _).1 hnone
      have hlink : ∀ name a, OwnClaim batch name a → ∀ l ∈ aliasedLinks batch,
          addedName l = name → l.target = a := by
        rintro name a ha l hl rfl
        exact hown l hl a ((lookup_ownOwners_eq_some_iff batch _ a).2 ha)
      rintro name a b (ha | ⟨l, hl, hname, rfl⟩) (hb | ⟨m, hm, hname', rfl⟩)
      · rw [← lookup_ownOwners_eq_some_iff] at ha hb
        exact Option.some.inj (ha.symm.trans hb)
      · exact (hlink name a ha m hm hname').symm
      · exact hlink name b hb l hl hname
      · exact hagree l hl m hm (hname.trans hname'.symm)
    · exact absurd h hl.not_noOffender
  · rintro h before l after hsplit ⟨owner, hclaim, hne⟩
    have hl : l ∈ aliasedLinks batch := by simp [hsplit]
    have howner : Claims batch (aliasedLinks batch) (addedName l) owner := by
      rcases hclaim with hown | ⟨b, hb, hclaim⟩
      · exact .inl hown
      · exact .inr ⟨b, by simp [hsplit, hb], hclaim⟩
    exact hne (h (addedName l) owner l.target howner (.inr ⟨l, hl, rfl, rfl⟩))

/-- What the resolver answers to every batch. Several ports on one service come first; then the
first link whose alias is claimed for another service, the first service that repeats a name, and
the first link that leads to no port. Without any of these the batch is accepted: no service maps
two ports, names differ, links with an alias lead to a port, and all claims on a name agree. -/
theorem resolve_precedence (externalIps : List String) (batch : List Service) :
    (∀ e, (∃ r, resolve externalIps batch = .error r ∧ r.toError = e) ↔ Reported batch (some e)) ∧
    ((∃ services, resolve externalIps batch = .ok services) ↔ Reported batch none) ∧
    (resolve externalIps batch = .error .multiplePorts ↔ ∃ s ∈ batch, 1 < s.ports.length) ∧
    ((∃ services, resolve externalIps batch = .ok services) ↔
      (∀ s ∈ batch, s.ports.length ≤ 1) ∧
      (batch.map fun s => Name.sanitize s.name).Nodup ∧
      (∀ l ∈ aliasedLinks batch, ∃ t ∈ batch, t.name = l.target ∧ t.ports ≠ []) ∧
      ∀ name a b, Claims batch (aliasedLinks batch) name a →
        Claims batch (aliasedLinks batch) name b → a = b) := by
  have hdue := reported_resolve externalIps batch
  have hiff : ∀ answer, errorOf? (resolve externalIps batch) = answer ↔ Reported batch answer := by
    intro answer
    constructor
    · rintro rfl
      exact hdue
    · exact hdue.unique
  have hok : (∃ services, resolve externalIps batch = .ok services) ↔ Reported batch none := by
    rw [← errorOf?_eq_none_iff, hiff]
  refine ⟨?_, hok, ?_, ?_⟩
  · intro e
    rw [← errorOf?_eq_some_iff, hiff]
  · constructor
    · intro h
      rw [h] at hdue
      cases hdue with
      | manyPorts hs hports => exact ⟨_, hs, hports⟩
    · rintro ⟨s, hs, hports⟩
      have hcheck : hasManyPorts batch = true := by
        simp only [hasManyPorts, List.any_eq_true, decide_eq_true_eq]
        exact ⟨s, hs, hports⟩
      simp [resolve, names, check, hcheck]
  · rw [hok]
    have htargets : NoOffender (fun _ => DeadEnd batch) (aliasedLinks batch) ↔
        ∀ l ∈ aliasedLinks batch, ∃ t ∈ batch, t.name = l.target ∧ t.ports ≠ [] := by
      simp [noOffender_const_iff, DeadEnd]
    constructor
    · rintro (_ | _ | _ | _ | _ | ⟨hports, haliases, hnames, hdead⟩)
      have hnodup := nodup_of_noOffender_repeats hnames
      exact ⟨hports, hnodup, htargets.1 hdead, (noOffender_contested_iff batch).1 haliases⟩
    · rintro ⟨hports, hnodup, hmaps, hagree⟩
      exact .nothing hports ((noOffender_contested_iff batch).2 hagree)
        (noOffender_repeats_of_nodup hnodup) (htargets.2 hmaps)

end Stevedore.Exposure
