import Stevedore.Backend.Program
/-!
# Transcripts of runs

A run of a program on a backend leaves a transcript: the calls that were made, in order, each with
its answer. The operations of the adapter end with the first call that fails, so a transcript of
theirs either is that of a full run, in which every call succeeds, or it follows a full run up to a
call that fails there.

Main results:

- Theorem `FailsFast.run_cases`: the two ways in which a run of such a program ends.
- Theorem `FailsFast.ends_of_failure`: the call that fails is the last one.
- Theorems `succeeds_bind_iff` and `succeeds_forEach`: a full run of a sequence or a loop is put
  together from full runs of its parts.
- Theorems `run_snd` and `reply_of_transcript`: a transcript determines the states of the backend in
  between, and each answer is the one given there.
-/

namespace Stevedore

open Backend Cluster

/-! ## Calls with their answers -/

namespace Backend

/-- The error that an answer reports. -/
def errorOf? : Except BackendError α → Option BackendError
  | .ok _ => none
  | .error e => some e

/-- Why a call failed, if its answer says that it did. -/
def Call.failure? : (call : Call) → call.Reply → Option BackendError
  | .listControllers, reply => errorOf? reply
  | .getController _, reply => errorOf? reply
  | .createController _, reply => errorOf? reply
  | .updateController _, reply => errorOf? reply
  | .deleteController _, reply => errorOf? reply
  | .listPods _, reply => errorOf? reply
  | .createService _, reply => errorOf? reply
  | .listServices _, reply => errorOf? reply
  | .deleteService _, reply => errorOf? reply
  | .health, _ => none

/-- A call that was made and its answer. -/
structure Exchange where
  call : Call
  reply : call.Reply

/-- Why the call failed, if it did. -/
def Exchange.failure? (x : Exchange) : Option BackendError := x.call.failure? x.reply

/-- Every call can be answered with success. -/
theorem Call.exists_success (c : Call) : ∃ reply, c.failure? reply = none := by
  cases c with
  | listControllers => exact ⟨.ok [], rfl⟩
  | getController name => exact ⟨.ok {}, rfl⟩
  | createController c => exact ⟨.ok {}, rfl⟩
  | updateController c => exact ⟨.ok {}, rfl⟩
  | deleteController name => exact ⟨.ok (), rfl⟩
  | listPods selector => exact ⟨.ok [], rfl⟩
  | createService v => exact ⟨.ok {}, rfl⟩
  | listServices selector => exact ⟨.ok [], rfl⟩
  | deleteService name => exact ⟨.ok (), rfl⟩
  | health => exact ⟨true, rfl⟩

/-- The second transcript follows the first one up to a call that fails there, and ends with it. -/
def CutShort (full t : List Exchange) (e : BackendError) : Prop :=
  ∃ before x y after, full = before ++ y :: after ∧ t = before ++ [x] ∧ x.call = y.call ∧
    x.failure? = some e

/-- One call before both parts changes nothing about where a run was cut short. -/
theorem CutShort.cons {full t : List Exchange} {e : BackendError} (x : Exchange)
    (h : CutShort full t e) : CutShort (x :: full) (x :: t) e := by
  rcases h with ⟨before, last, y, after, rfl, rfl, hcall, hfail⟩
  exact ⟨x :: before, last, y, after, rfl, rfl, hcall, hfail⟩

/-- What is cut short makes no other calls. -/
theorem CutShort.exists_call_eq {full t : List Exchange} {e : BackendError}
    (h : CutShort full t e) : ∀ x ∈ t, ∃ y ∈ full, y.call = x.call := by
  rcases h with ⟨before, last, y, after, rfl, rfl, hcall, -⟩
  intro x hx
  rcases List.mem_append.1 hx with hx | hx
  · exact ⟨x, by simp [hx], rfl⟩
  · rw [List.mem_singleton.1 hx]
    exact ⟨y, by simp, hcall.symm⟩

end Backend

namespace Program

/-! ## Transcripts -/

/-- The calls of a run on a backend with their answers, in order. -/
def transcript (handler : Handler σ) : Program α → σ → List Exchange
  | done _, _ => []
  | fail _, _ => []
  | call c next, s =>
    ⟨c, (handler c s).1⟩ :: (next (handler c s).1).transcript handler (handler c s).2

@[simp]
theorem transcript_done (handler : Handler σ) (a : α) (s : σ) :
    (done a).transcript handler s = [] :=
  rfl

@[simp]
theorem transcript_fail (handler : Handler σ) (e : Failure) (s : σ) :
    (fail e : Program α).transcript handler s = [] :=
  rfl

@[simp]
theorem transcript_call (handler : Handler σ) (c : Call) (next : c.Reply → Program α) (s : σ) :
    (call c next).transcript handler s =
      ⟨c, (handler c s).1⟩ :: (next (handler c s).1).transcript handler (handler c s).2 :=
  rfl

/-- A sequence adds the calls of its second part where the first one ends with a value. -/
theorem transcript_bind (handler : Handler σ) (p : Program α) (f : α → Program β) (s : σ) :
    (p >>= f).transcript handler s =
      p.transcript handler s ++
        match p.run handler s with
        | (.ok a, s) => (f a).transcript handler s
        | (.error _, _) => [] := by
  induction p generalizing s with
  | done a => rfl
  | fail e => rfl
  | call c next ih => simp [ih]

/-- What is made of the result takes no calls. -/
theorem transcript_bind_done (handler : Handler σ) (p : Program α) (f : α → β) (s : σ) :
    (p >>= fun a => done (f a)).transcript handler s = p.transcript handler s := by
  rw [transcript_bind]
  split <;> simp

/-- The state of a backend after the calls of a transcript. -/
def replay (handler : Handler σ) (s : σ) (t : List Exchange) : σ :=
  t.foldl (fun s x => (handler x.call s).2) s

/-- The backend after one more exchange. -/
theorem replay_concat (handler : Handler σ) (s : σ) (t : List Exchange) (x : Exchange) :
    replay handler s (t ++ [x]) = (handler x.call (replay handler s t)).2 := by
  simp [replay]

/-- A run leaves the backend as the calls of its transcript do. -/
theorem run_snd (handler : Handler σ) (p : Program α) (s : σ) :
    (p.run handler s).2 = replay handler s (p.transcript handler s) := by
  induction p generalizing s with
  | done a => rfl
  | fail e => rfl
  | call c next ih => exact ih (handler c s).1 (handler c s).2

/-- What every call keeps of a backend, a run keeps. -/
theorem run_invariant {handler : Handler σ} {I : σ → Prop}
    (hcall : ∀ c s, I s → I (handler c s).2) (p : Program α) {s : σ} (hs : I s) :
    I (p.run handler s).2 := by
  induction p generalizing s with
  | done a => exact hs
  | fail e => exact hs
  | call c next ih => exact ih (handler c s).1 (hcall c s hs)

/-- Each answer in a transcript is the one that the backend gives where it stands. -/
theorem reply_of_transcript {handler : Handler σ} {p : Program α} {s : σ}
    {before after : List Exchange} {x : Exchange}
    (h : p.transcript handler s = before ++ x :: after) :
    x.reply = (handler x.call (replay handler s before)).1 := by
  induction p generalizing s before with
  | done a => simp at h
  | fail e => simp at h
  | call c next ih =>
      cases before with
      | nil =>
          rw [transcript_call, List.nil_append, List.cons.injEq] at h
          rcases h with ⟨rfl, -⟩
          rfl
      | cons first before =>
          rw [transcript_call, List.cons_append, List.cons.injEq] at h
          rcases h with ⟨rfl, hrest⟩
          have hreply := ih (handler c s).1 hrest
          exact hreply

/-- What holds of the calls of both parts holds of those of a sequence. -/
theorem forall_transcript_bind {P : Exchange → Prop} {handler : Handler σ} {p : Program α}
    {f : α → Program β} {s : σ} (hp : ∀ x ∈ p.transcript handler s, P x)
    (hf : ∀ a s, ∀ x ∈ (f a).transcript handler s, P x) :
    ∀ x ∈ (p >>= f).transcript handler s, P x := by
  intro x hx
  rw [transcript_bind] at hx
  rcases List.mem_append.1 hx with hx | hx
  · exact hp x hx
  · split at hx
    · exact hf _ _ x hx
    · simp at hx

/-- What holds of the calls of each item holds of those of a loop. -/
theorem forall_transcript_forEach {P : Exchange → Prop} {handler : Handler σ}
    {body : α → Program β} (items : List α)
    (hbody : ∀ a ∈ items, ∀ s, ∀ x ∈ (body a).transcript handler s, P x) (s : σ) :
    ∀ x ∈ (forEach items body).transcript handler s, P x := by
  induction items generalizing s with
  | nil => simp [forEach]
  | cons item rest ih =>
      rw [List.forall_mem_cons] at hbody
      unfold forEach
      refine forall_transcript_bind (hbody.1 s) fun b s => ?_
      exact forall_transcript_bind (ih hbody.2 s) fun bs s => by simp

/-! ## Full runs -/

/-- The program makes these calls, all of which succeed, and ends with this value. -/
inductive Succeeds : Program α → List Exchange → α → Prop
  | done (a : α) : Succeeds (done a) [] a
  | call {c : Call} {next : c.Reply → Program α} {reply : c.Reply} {t : List Exchange} {a : α}
      (hreply : c.failure? reply = none) (hnext : Succeeds (next reply) t a) :
      Succeeds (call c next) (⟨c, reply⟩ :: t) a

/-- A program that is done succeeds without calls. -/
@[simp]
theorem succeeds_done_iff (a b : α) (t : List Exchange) :
    Succeeds (done a) t b ↔ t = [] ∧ a = b := by
  constructor
  · rintro ⟨⟩
    exact ⟨rfl, rfl⟩
  · rintro ⟨rfl, rfl⟩
    exact .done a

/-- In a full run no call fails. -/
theorem Succeeds.failure?_eq_none {p : Program α} {t : List Exchange} {a : α}
    (h : Succeeds p t a) : ∀ x ∈ t, x.failure? = none := by
  induction h with
  | done a => simp
  | call hreply _ ih => exact List.forall_mem_cons.2 ⟨hreply, ih⟩

/-- Two programs succeed one after the other with the calls of both. -/
theorem succeeds_bind_iff (p : Program α) (f : α → Program β) (t : List Exchange) (b : β) :
    Succeeds (p >>= f) t b ↔
      ∃ t₁ t₂ a, t = t₁ ++ t₂ ∧ Succeeds p t₁ a ∧ Succeeds (f a) t₂ b := by
  constructor
  · intro h
    induction p generalizing t with
    | done a => exact ⟨[], t, a, rfl, .done a, h⟩
    | fail e => nomatch h
    | call c next ih =>
        cases h with
        | @call _ _ reply t _ hreply hnext =>
            rcases ih reply t hnext with ⟨t₁, t₂, a, rfl, hp, hf⟩
            exact ⟨⟨c, reply⟩ :: t₁, t₂, a, rfl, .call hreply hp, hf⟩
  · rintro ⟨t₁, t₂, a, rfl, hp, hf⟩
    induction hp with
    | done a => exact hf
    | call hreply _ ih => exact .call hreply (ih hf)

/-- A loop succeeds with the calls of its first item and those of the others. -/
theorem succeeds_forEach_cons_iff (item : α) (rest : List α) (body : α → Program β)
    (t : List Exchange) (bs : List β) :
    Succeeds (forEach (item :: rest) body) t bs ↔
      ∃ t₁ t₂ b more, t = t₁ ++ t₂ ∧ bs = b :: more ∧ Succeeds (body item) t₁ b ∧
        Succeeds (forEach rest body) t₂ more := by
  simp only [forEach, succeeds_bind_iff, succeeds_done_iff]
  constructor
  · rintro ⟨t₁, _, b, rfl, hb, t₂, _, more, rfl, hmore, rfl, rfl⟩
    exact ⟨t₁, t₂, b, more, by simp, rfl, hb, hmore⟩
  · rintro ⟨t₁, t₂, b, more, rfl, rfl, hb, hmore⟩
    exact ⟨t₁, t₂, b, rfl, hb, t₂, [], more, by simp, hmore, rfl, rfl⟩

/-- If the full runs of a body are known for each item, so are those of a loop. -/
theorem succeeds_forEach {γ : Type} {body : α → Program β} {calls : α → γ → List Exchange}
    {value : γ → β}
    (hbody : ∀ a t b, Succeeds (body a) t b → ∃ answer, t = calls a answer ∧ b = value answer)
    {items : List α} {t : List Exchange} {bs : List β} (h : Succeeds (forEach items body) t bs) :
    ∃ answers, answers.length = items.length ∧ t = (List.zipWith calls items answers).flatten ∧
      bs = answers.map value := by
  induction items generalizing t bs with
  | nil =>
      rcases (succeeds_done_iff _ _ _).1 h with ⟨rfl, rfl⟩
      exact ⟨[], rfl, rfl, rfl⟩
  | cons item rest ih =>
      rcases (succeeds_forEach_cons_iff _ _ _ _ _).1 h with
        ⟨t₁, t₂, b, more, rfl, rfl, hitem, hrest⟩
      rcases hbody item t₁ b hitem with ⟨answer, rfl, rfl⟩
      rcases ih hrest with ⟨answers, hlength, rfl, rfl⟩
      exact ⟨answer :: answers, by simp [hlength], rfl, rfl⟩

/-! ## Programs that end with the first failure -/

/-- The program ends with the error of a call that fails, and does not fail for another reason. -/
inductive FailsFast : Program α → Prop
  | done (a : α) : FailsFast (done a)
  | call {c : Call} {next : c.Reply → Program α}
      (stops : ∀ reply e, c.failure? reply = some e → next reply = fail (.error e.toError))
      (goesOn : ∀ reply, c.failure? reply = none → FailsFast (next reply)) :
      FailsFast (call c next)

/-- Two programs that fail fast do so one after the other. -/
theorem FailsFast.bind {p : Program α} {f : α → Program β} (hp : FailsFast p)
    (hf : ∀ a, FailsFast (f a)) : FailsFast (p >>= f) := by
  induction hp with
  | done a => exact hf a
  | @call c next stops _ ih =>
      refine .call ?_ ih
      intro reply e hfail
      rw [stops reply e hfail]
      rfl

/-- A loop fails fast if its items do. -/
theorem FailsFast.forEach {body : α → Program β} (hbody : ∀ a, FailsFast (body a))
    (items : List α) : FailsFast (forEach items body) := by
  induction items with
  | nil => exact .done []
  | cons item rest ih => exact (hbody item).bind fun b => ih.bind fun bs => .done (b :: bs)

/-- Such a program has a full run. -/
theorem FailsFast.exists_succeeds {p : Program α} (hp : FailsFast p) : ∃ t a, Succeeds p t a := by
  induction hp with
  | done a => exact ⟨[], a, .done a⟩
  | @call c next _ _ ih =>
      rcases c.exists_success with ⟨reply, hreply⟩
      rcases ih reply hreply with ⟨t, a, h⟩
      exact ⟨⟨c, reply⟩ :: t, a, .call hreply h⟩

/-- On every backend such a program makes a full run, or its run follows a full one up to the first
call that fails, whose error it returns. -/
theorem FailsFast.run_cases {p : Program α} (hp : FailsFast p) (handler : Handler σ) (s : σ) :
    (∃ a, Succeeds p (p.transcript handler s) a ∧ (p.run handler s).1 = .ok a) ∨
      ∃ full a e, Succeeds p full a ∧ CutShort full (p.transcript handler s) e ∧
        (p.run handler s).1 = .error (.error e.toError) := by
  induction hp generalizing s with
  | done a => exact .inl ⟨a, .done a, rfl⟩
  | @call c next stops goesOn ih =>
      cases hfail : c.failure? (handler c s).1 with
      | some e =>
          rcases c.exists_success with ⟨reply, hreply⟩
          rcases (goesOn reply hreply).exists_succeeds with ⟨t, a, h⟩
          refine .inr ⟨⟨c, reply⟩ :: t, a, e, .call hreply h, ?_, ?_⟩
          · rw [transcript_call, stops _ e hfail]
            exact ⟨[], ⟨c, (handler c s).1⟩, ⟨c, reply⟩, t, rfl, rfl, rfl, hfail⟩
          · rw [run_call, stops _ e hfail]
            rfl
      | none =>
          rcases ih (handler c s).1 hfail (handler c s).2 with
            ⟨a, hfull, hrun⟩ | ⟨full, a, e, hfull, hcut, hrun⟩
          · exact .inl ⟨a, .call hfail hfull, hrun⟩
          · exact .inr ⟨⟨c, (handler c s).1⟩ :: full, a, e, .call hfail hfull, hcut.cons _, hrun⟩

/-- A call that fails is the last one, and its error is returned. -/
theorem FailsFast.ends_of_failure {p : Program α} (hp : FailsFast p) {handler : Handler σ} {s : σ}
    {before after : List Exchange} {x : Exchange} {e : BackendError}
    (ht : p.transcript handler s = before ++ x :: after) (hx : x.failure? = some e) :
    after = [] ∧ (p.run handler s).1 = .error (.error e.toError) := by
  induction hp generalizing s before with
  | done a => simp at ht
  | @call c next stops goesOn ih =>
      cases before with
      | nil =>
          rw [transcript_call, List.nil_append, List.cons.injEq] at ht
          obtain ⟨rfl, hafter⟩ := ht
          have hnext := stops (handler c s).1 e hx
          rw [hnext, transcript_fail] at hafter
          exact ⟨hafter.symm, by rw [run_call, hnext, run_fail]⟩
      | cons first before =>
          rw [transcript_call, List.cons_append, List.cons.injEq] at ht
          obtain ⟨rfl, hrest⟩ := ht
          cases hfirst : c.failure? (handler c s).1 with
          | none => exact ih (handler c s).1 hfirst hrest
          | some e' =>
              rw [stops _ e' hfirst] at hrest
              simp at hrest

/-- On every backend such a program makes calls of a full run only. -/
theorem FailsFast.exists_full {p : Program α} (hp : FailsFast p) (handler : Handler σ) (s : σ) :
    ∃ full a, Succeeds p full a ∧ ∀ x ∈ p.transcript handler s, ∃ y ∈ full, y.call = x.call := by
  rcases hp.run_cases handler s with ⟨a, hfull, -⟩ | ⟨full, a, e, hfull, hcut, -⟩
  · exact ⟨_, a, hfull, fun x hx => ⟨x, hx, rfl⟩⟩
  · exact ⟨full, a, hfull, hcut.exists_call_eq⟩

/-! ## Single calls -/

/-- The program makes one call. It ends with the value of a successful answer, or with the error. -/
def Asks (p : Program α) (c : Call) (ok : α → c.Reply) : Prop :=
  ∃ next, p = call c next ∧ (∀ a, c.failure? (ok a) = none ∧ next (ok a) = done a) ∧
    ∀ reply, (∃ a, reply = ok a) ∨
      ∃ e, c.failure? reply = some e ∧ next reply = fail (.error e.toError)

/-- What asks for one answer fails fast. -/
theorem Asks.failsFast {p : Program α} {c : Call} {ok : α → c.Reply} (h : Asks p c ok) :
    FailsFast p := by
  rcases h with ⟨next, rfl, hok, hreply⟩
  refine .call ?_ ?_
  · intro reply e hfail
    rcases hreply reply with ⟨a, rfl⟩ | ⟨e', hfail', hnext⟩
    · rw [(hok a).1] at hfail
      contradiction
    · rw [hfail, Option.some.injEq] at hfail'
      rw [hnext, hfail']
  · intro reply hsuccess
    rcases hreply reply with ⟨a, rfl⟩ | ⟨e, hfail, -⟩
    · rw [(hok a).2]
      exact .done a
    · rw [hsuccess] at hfail
      contradiction

/-- The call with its answer is the whole transcript. -/
theorem Asks.transcript_eq {p : Program α} {c : Call} {ok : α → c.Reply} (h : Asks p c ok)
    (handler : Handler σ) (s : σ) : p.transcript handler s = [⟨c, (handler c s).1⟩] := by
  rcases h with ⟨next, rfl, hok, hreply⟩
  rw [transcript_call]
  rcases hreply (handler c s).1 with ⟨a, hvalue⟩ | ⟨e, -, hnext⟩
  · rw [hvalue, (hok a).2]
    rfl
  · rw [hnext]
    rfl

/-- A call that is answered with a value ends with it. -/
theorem Asks.run_of_success {p : Program α} {c : Call} {ok : α → c.Reply} (h : Asks p c ok)
    {handler : Handler σ} {s : σ} {a : α} (hreply : (handler c s).1 = ok a) :
    p.run handler s = (.ok a, (handler c s).2) := by
  rcases h with ⟨next, rfl, hok, -⟩
  rw [run_call, hreply, (hok a).2, run_done]

/-- The full runs of a single call. -/
theorem Asks.succeeds_iff {p : Program α} {c : Call} {ok : α → c.Reply} (h : Asks p c ok)
    (t : List Exchange) (a : α) : Succeeds p t a ↔ t = [⟨c, ok a⟩] := by
  rcases h with ⟨next, rfl, hok, hreply⟩
  constructor
  · intro h
    cases h with
    | @call _ _ reply t _ hsuccess hnext =>
        rcases hreply reply with ⟨b, rfl⟩ | ⟨e, hfail, -⟩
        · rw [(hok b).2, succeeds_done_iff] at hnext
          rcases hnext with ⟨rfl, rfl⟩
          rfl
        · rw [hsuccess] at hfail
          contradiction
  · rintro rfl
    refine .call (hok a).1 ?_
    rw [(hok a).2]
    exact .done a

/-- The full runs of a loop over single calls. -/
theorem Asks.succeeds_forEach {body : α → Program β} {c : α → Call} {ok : (a : α) → β → (c a).Reply}
    (h : ∀ a, Asks (body a) (c a) (ok a)) {items : List α} {t : List Exchange} {bs : List β}
    (hloop : Succeeds (forEach items body) t bs) :
    bs.length = items.length ∧ t = List.zipWith (fun a b => ⟨c a, ok a b⟩) items bs := by
  have hbody : ∀ a t b, Succeeds (body a) t b → ∃ answer, t = [⟨c a, ok a answer⟩] ∧ b = answer :=
    fun a t b hrun => ⟨b, ((h a).succeeds_iff t b).1 hrun, rfl⟩
  rcases Program.succeeds_forEach hbody hloop with ⟨answers, hlength, rfl, rfl⟩
  rw [List.map_id']
  refine ⟨hlength, ?_⟩
  have hsingle : List.zipWith (fun a b => [⟨c a, ok a b⟩]) items answers =
      (List.zipWith (fun a b => (⟨c a, ok a b⟩ : Exchange)) items answers).map fun x => [x] := by
    rw [List.map_zipWith]
  rw [hsingle, ← List.flatMap_def, List.flatMap_singleton']

/-- An answer holds a value or an error, and the error ends the program. -/
theorem ofReply_cases (reply : Except BackendError α) :
    (∃ a, reply = .ok a) ∨
      ∃ e, errorOf? reply = some e ∧ ofReply reply = fail (.error e.toError) := by
  cases reply with
  | ok a => exact .inl ⟨a, rfl⟩
  | error e => exact .inr ⟨e, rfl, rfl⟩

/-- Listing the controllers is one call, and its answer is the result. -/
theorem asks_listControllers : Asks listControllers .listControllers .ok :=
  ⟨ofReply, rfl, fun _ => ⟨rfl, rfl⟩, ofReply_cases⟩

theorem asks_getController (name : String) :
    Asks (getController name) (.getController name) .ok :=
  ⟨ofReply, rfl, fun _ => ⟨rfl, rfl⟩, ofReply_cases⟩

theorem asks_createController (c : Controller) :
    Asks (createController c) (.createController c) .ok :=
  ⟨ofReply, rfl, fun _ => ⟨rfl, rfl⟩, ofReply_cases⟩

theorem asks_updateController (c : Controller) :
    Asks (updateController c) (.updateController c) .ok :=
  ⟨ofReply, rfl, fun _ => ⟨rfl, rfl⟩, ofReply_cases⟩

theorem asks_deleteController (name : String) :
    Asks (deleteController name) (.deleteController name) .ok :=
  ⟨ofReply, rfl, fun _ => ⟨rfl, rfl⟩, ofReply_cases⟩

theorem asks_listPods (selector : Selector) : Asks (listPods selector) (.listPods selector) .ok :=
  ⟨ofReply, rfl, fun _ => ⟨rfl, rfl⟩, ofReply_cases⟩

theorem asks_createService (v : NetworkService) :
    Asks (createService v) (.createService v) .ok :=
  ⟨ofReply, rfl, fun _ => ⟨rfl, rfl⟩, ofReply_cases⟩

theorem asks_listServices (selector : Selector) :
    Asks (listServices selector) (.listServices selector) .ok :=
  ⟨ofReply, rfl, fun _ => ⟨rfl, rfl⟩, ofReply_cases⟩

theorem asks_deleteService (name : String) :
    Asks (deleteService name) (.deleteService name) .ok :=
  ⟨ofReply, rfl, fun _ => ⟨rfl, rfl⟩, ofReply_cases⟩

end Program

end Stevedore
