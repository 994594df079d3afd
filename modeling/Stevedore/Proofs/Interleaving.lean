import Stevedore.Proofs.Transcript
import Mathlib.Data.List.Induction
/-!
# Programs that share a backend

Several programs run over one backend. A call and its answer are one step; between the calls of one
program any calls of the others may come. The log of all calls says for each program which calls it
made and what it was told, and that alone determines how far it got. So a program among others
behaves as it would on a backend of its own that gives the same answers, and what is known of its
runs on every backend applies.

Main definitions:

- `Crowd`: programs, the backend they share, and the log.
- `Crowd.run`: the programs make calls in the order of a schedule.
- `Reaches`: a program goes on to another by some calls and their answers.
- `scripted`: a backend that gives prepared answers.

Main results:

- Theorem `Crowd.run_induction`: what holds at the start and is kept by every call holds whatever the
  schedule.
- Theorem `Crowd.reaches_run`: the log says how far each program got.
- Theorems `Reaches.run_scripted` and `Reaches.transcript_scripted`: a program that got so far among
  others does so on a backend of its own. For one that ended, `Reaches.of_bind_done` and
  `Reaches.of_bind_fail` put the two together.
-/

namespace Stevedore

open Backend

namespace Program

/-! ## How far a program gets -/

/-- With these calls and their answers the first program becomes the second. -/
inductive Reaches : Program α → List Exchange → Program α → Prop
  | refl (p : Program α) : Reaches p [] p
  | call {c : Call} {next : c.Reply → Program α} {reply : c.Reply} {t : List Exchange}
      {q : Program α} (hnext : Reaches (next reply) t q) :
      Reaches (call c next) (⟨c, reply⟩ :: t) q

/-- One more call. -/
theorem Reaches.concat {p : Program α} {t : List Exchange} {c : Call}
    {next : c.Reply → Program α} (h : Reaches p t (Program.call c next)) (reply : c.Reply) :
    Reaches p (t ++ [⟨c, reply⟩]) (next reply) := by
  generalize hq : Program.call c next = q at h
  induction h with
  | refl p =>
      subst hq
      exact .call (.refl _)
  | call _ ih => exact .call (ih hq)

/-- A backend that gives the answers of a transcript. A call that it is not prepared for fails. -/
def scripted : Handler (List Exchange)
  | c, [] => (c.failed (.other ""), [])
  | c, x :: rest =>
    if h : x.call = c then (h ▸ x.reply, rest) else (c.failed (.other ""), rest)

/-- A script answers a call with the reply that stands first for it. -/
theorem scripted_cons (c : Call) (reply : c.Reply) (rest : List Exchange) :
    scripted c (⟨c, reply⟩ :: rest) = (reply, rest) := by
  simp [scripted]

namespace Reaches

variable {p q : Program α} {t : List Exchange}

/-- Given the same answers, the rest of the run is that of what was reached. -/
theorem run_scripted (h : Reaches p t q) (rest : List Exchange) :
    p.run scripted (t ++ rest) = q.run scripted rest := by
  induction h with
  | refl p => rfl
  | call _ ih => rw [List.cons_append, run_call, scripted_cons, ih]

/-- Given the same answers, the same calls are made on the way. -/
theorem transcript_scripted (h : Reaches p t q) (rest : List Exchange) :
    p.transcript scripted (t ++ rest) = t ++ q.transcript scripted rest := by
  induction h with
  | refl p => rfl
  | call _ ih => rw [List.cons_append, transcript_call, scripted_cons, ih, List.cons_append]

section Results

variable {p : Program α} {f : α → β}

/-- A program whose result is only wrapped, and that returned, does so given the same answers. -/
theorem of_bind_done {b : β} (h : Reaches (p >>= fun a => done (f a)) t (done b)) :
    p.transcript scripted t = t ∧ ∃ a, (p.run scripted t).1 = .ok a ∧ f a = b := by
  have htranscript := h.transcript_scripted []
  have hrun := h.run_scripted []
  rw [transcript_bind_done, transcript_done, List.append_nil] at htranscript
  rw [List.append_nil, run_bind, run_done] at hrun
  refine ⟨htranscript, ?_⟩
  generalize p.run scripted t = pair at hrun ⊢
  rcases pair with ⟨_ | a, rest⟩
  · simp at hrun
  · simp only [run_done, Prod.mk.injEq, Except.ok.injEq] at hrun
    exact ⟨a, rfl, hrun.1⟩

/-- If it failed, it fails in the same way given the same answers. -/
theorem of_bind_fail {e : Failure} (h : Reaches (p >>= fun a => done (f a)) t (fail e)) :
    p.transcript scripted t = t ∧ (p.run scripted t).1 = .error e := by
  have htranscript := h.transcript_scripted []
  have hrun := h.run_scripted []
  rw [transcript_bind_done, transcript_fail, List.append_nil] at htranscript
  rw [List.append_nil, run_bind, run_fail] at hrun
  refine ⟨htranscript, ?_⟩
  generalize p.run scripted t = pair at hrun ⊢
  rcases pair with ⟨failure | a, rest⟩
  · simp only [Prod.mk.injEq, Except.error.injEq] at hrun
    rw [hrun.1]
  · simp at hrun

end Results

end Reaches

/-- Without prepared answers all calls fail. -/
theorem failed_of_transcript_nil (p : Program α) :
    ∀ x ∈ p.transcript scripted [], ∃ c, x = ⟨c, c.failed (.other "")⟩ := by
  induction p with
  | done a => simp
  | fail e => simp
  | call c next ih =>
      rw [transcript_call, List.forall_mem_cons]
      exact ⟨⟨c, rfl⟩, ih (c.failed (.other ""))⟩

end Program

/-! ## Crowds -/

/-- Programs that share a backend, and the calls that were made so far with their answers, each with
the place of the program that made it. -/
structure Crowd (σ α : Type) where
  state : σ
  programs : List (Program α)
  log : List (Nat × Exchange) := []

namespace Crowd

open Program

/-- Programs that have made no call yet. -/
def start (s : σ) (programs : List (Program α)) : Crowd σ α := ⟨s, programs, []⟩

/-- The call of the program at a place, as the backend answers it. -/
def answering (handler : Handler σ) (w : Crowd σ α) (i : Nat) (c : Call)
    (next : c.Reply → Program α) : Crowd σ α where
  state := (handler c w.state).2
  programs := w.programs.set i (next (handler c w.state).1)
  log := w.log ++ [(i, ⟨c, (handler c w.state).1⟩)]

/-- The program at a place makes its next call, if there is one. -/
def step (handler : Handler σ) (w : Crowd σ α) (i : Nat) : Crowd σ α :=
  match w.programs[i]? with
  | some (.call c next) => w.answering handler i c next
  | _ => w

/-- The programs make calls in the order of a schedule, which names the place of each. -/
def run (handler : Handler σ) (w : Crowd σ α) (schedule : List Nat) : Crowd σ α :=
  schedule.foldl (step handler) w

/-- The calls that the program at a place made. -/
def part (w : Crowd σ α) (i : Nat) : List Exchange :=
  w.log.filterMap fun e => if e.1 = i then some e.2 else none

/-- The program at a place returned a result. -/
def Returned (w : Crowd σ α) (i : Nat) : Prop := ∃ a, w.programs[i]? = some (.done a)

/-- No program has a call left to make. -/
def Ended (w : Crowd σ α) : Prop := ∀ p ∈ w.programs, ∀ c next, p ≠ .call c next

/-- The part of a program is what it has in the log. -/
theorem mem_part_iff (w : Crowd σ α) (i : Nat) (x : Exchange) : x ∈ w.part i ↔ (i, x) ∈ w.log := by
  unfold part
  rw [List.mem_filterMap]
  constructor
  · intro h
    rcases h with ⟨⟨j, y⟩, hy, hsome⟩
    by_cases hj : j = i
    · rw [if_pos hj, Option.some.injEq] at hsome
      rw [← hj, ← hsome]
      exact hy
    · rw [if_neg hj] at hsome
      contradiction
  · intro h
    exact ⟨(i, x), h, if_pos rfl⟩

section Answering

variable (handler : Handler σ) (w : Crowd σ α) {i : Nat} {c : Call} {next : c.Reply → Program α}

/-- The program that made a call goes on with the answer. -/
theorem getElem?_programs_answering_self (hi : w.programs[i]? = some (.call c next)) :
    (w.answering handler i c next).programs[i]? = some (next (handler c w.state).1) := by
  have hlt : i < w.programs.length := (List.getElem?_eq_some_iff.1 hi).1
  unfold answering
  simp [hlt]

/-- The programs that did not make the call stay as they were. -/
theorem getElem?_programs_answering_of_ne {j : Nat} (hne : j ≠ i) :
    (w.answering handler i c next).programs[j]? = w.programs[j]? := by
  unfold answering
  simp [hne.symm]

/-- The call and its answer are added to the part of its program. -/
theorem part_answering_self :
    (w.answering handler i c next).part i = w.part i ++ [⟨c, (handler c w.state).1⟩] := by
  unfold part answering
  simp

theorem part_answering_of_ne {j : Nat} (hne : j ≠ i) :
    (w.answering handler i c next).part j = w.part j := by
  unfold part answering
  simp [hne.symm]

end Answering

section Start

variable (handler : Handler σ) (s : σ) (programs : List (Program α)) (schedule : List Nat)

/-- One more turn of a schedule is one more step. -/
theorem run_concat (i : Nat) :
    (start s programs).run handler (schedule ++ [i]) =
      ((start s programs).run handler schedule).step handler i := by
  unfold run
  rw [List.foldl_append]
  rfl

/-- A step of a program that makes a call answers this call. -/
theorem step_of_call {w : Crowd σ α} {i : Nat} {c : Call} {next : c.Reply → Program α}
    (hi : w.programs[i]? = some (.call c next)) : w.step handler i = w.answering handler i c next := by
  unfold step
  rw [hi]

variable {handler s programs}

/-- What holds at the start and is kept by every call holds whatever the schedule. -/
theorem run_induction {I : Crowd σ α → Prop} (hstart : I (start s programs))
    (hcall : ∀ schedule i c next, I ((start s programs).run handler schedule) →
      ((start s programs).run handler schedule).programs[i]? = some (.call c next) →
      I (((start s programs).run handler schedule).answering handler i c next)) :
    I ((start s programs).run handler schedule) := by
  induction schedule using List.reverseRecOn with
  | nil => exact hstart
  | append_singleton before i ih =>
      rw [run_concat]
      unfold step
      split
      · next c next hi => exact hcall before i c next ih hi
      · exact ih

variable (handler s)

/-- Every program has got as far as its part of the log says. -/
theorem reaches_run {i : Nat} {p : Program α} (hp : programs[i]? = some p) :
    ∃ q, ((start s programs).run handler schedule).programs[i]? = some q ∧
      Reaches p (((start s programs).run handler schedule).part i) q := by
  refine run_induction (I := fun w => ∃ q, w.programs[i]? = some q ∧ Reaches p (w.part i) q)
    schedule ⟨p, hp, .refl p⟩ ?_
  intro before j c next hbefore hj
  rcases hbefore with ⟨q, hq, hreaches⟩
  by_cases hij : i = j
  · subst hij
    rw [hj, Option.some.injEq] at hq
    subst hq
    refine ⟨_, getElem?_programs_answering_self handler _ hj, ?_⟩
    rw [part_answering_self]
    exact hreaches.concat _
  · refine ⟨q, ?_, ?_⟩
    · rw [getElem?_programs_answering_of_ne handler _ hij]
      exact hq
    · rw [part_answering_of_ne handler _ hij]
      exact hreaches

theorem length_programs_run :
    ((start s programs).run handler schedule).programs.length = programs.length := by
  refine run_induction (I := fun w => w.programs.length = programs.length) schedule rfl ?_
  intro before i c next hbefore _
  simpa [answering] using hbefore

/-- The calls in the log were made at places of programs. -/
theorem lt_length_of_mem_log :
    ∀ e ∈ ((start s programs).run handler schedule).log, e.1 < programs.length := by
  refine run_induction (I := fun w => ∀ e ∈ w.log, e.1 < programs.length) schedule
    (by simp [start]) ?_
  intro before i c next hbefore hi e he
  rcases List.mem_append.1 he with he | he
  · exact hbefore e he
  · have hlt := (List.getElem?_eq_some_iff.1 hi).1
    rw [length_programs_run] at hlt
    rw [List.mem_singleton.1 he]
    exact hlt

end Start

end Crowd

end Stevedore
