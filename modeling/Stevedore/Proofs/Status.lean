import Mathlib.Algebra.Group.Nat.Defs
import Mathlib.Data.List.Perm.Basic
import Stevedore.Status
import Stevedore.Backend.Store
import Stevedore.Text.Pieces
import Stevedore.Proofs.Decimal
import Stevedore.Proofs.Transcript
import Stevedore.Proofs.Json.Members
/-!
# What a status says

The status of a deployment follows from two numbers and, where these agree, from the phases of its pods.
The pods are asked for only then, and a status is never made up where they cannot be listed. A status can
be told from its text, and from its JSON form, which is read back.

Main definitions:

- `Status.phases`: the phases of pods, all that a status depends on.
- `Status.Fits`: the count of a running deployment is a number of 64 bits.

Main results:

- Theorem `compute_eq_of_perm`: neither the order of the pods nor anything but their phases matters.
- Theorem `text_injective`: the text of a status says which one it is.
- Theorem `reads_toJson`: the JSON form of a status is read back.
- Theorem `status_of_counts`: how the status of a controller is found on any backend.
-/

namespace Stevedore.Status

open Backend Cluster Program

/-! ## Pods that run -/

/-- The phases of pods, as far as they are known. -/
def phases (pods : List Pod) : List (Option String) := pods.map (·.phase?)

/-- The running pods are those with the phase of this name. -/
theorem countP_isRunning (pods : List Pod) :
    pods.countP isRunning = (phases pods).count (some "Running") := by
  unfold phases
  rw [List.count_eq_countP, List.countP_map]
  rfl

theorem count_phases_le (pods : List Pod) (phase : Option String) :
    (phases pods).count phase ≤ pods.length := by
  have hle := List.count_le_length (a := phase) (l := phases pods)
  unfold phases at hle ⊢
  rwa [List.length_map] at hle

/-- With fewer pods than asked for a deployment is pending. -/
theorem compute_of_lt {asked seen : Int32} (h : seen < asked) (pods : List Pod) :
    compute asked seen pods = pending := if_pos h

/-- With more pods than asked for its status is unknown. -/
theorem compute_of_gt {asked seen : Int32} (h : asked < seen) (pods : List Pod) :
    compute asked seen pods = unknown := by
  unfold compute
  rw [if_neg (Int32.not_lt.2 (Int32.le_of_lt h)), if_pos h]

/-- Where the numbers differ the pods do not matter. -/
theorem compute_of_ne {asked seen : Int32} (h : seen ≠ asked) (pods others : List Pod) :
    compute asked seen pods = compute asked seen others := by
  rcases Int32.lt_or_lt_of_ne h with hlt | hgt
  · rw [compute_of_lt hlt, compute_of_lt hlt]
  · rw [compute_of_gt hgt, compute_of_gt hgt]

theorem compute_self (n : Int32) (pods : List Pod) :
    compute n n pods = running ((phases pods).count (some "Running")) n := by
  unfold compute
  rw [if_neg Int32.lt_irrefl, if_neg Int32.lt_irrefl, countP_isRunning]

/-- A status depends on the phases of the pods alone, and not on their order. -/
theorem compute_eq_of_perm (asked seen : Int32) {pods others : List Pod}
    (h : (phases pods).Perm (phases others)) :
    compute asked seen pods = compute asked seen others := by
  unfold compute
  rw [countP_isRunning, countP_isRunning, h.count_eq]

/-! ## The status of a controller -/

section Finding

variable {handler : Handler σ} {s : σ} {c : Controller}

/-- Where the numbers differ no call is made. -/
theorem ofController_of_ne (h : observed c ≠ desired c) :
    ofController c = done (compute (desired c) (observed c) []) := by
  unfold ofController
  rw [if_neg h]
  rfl

/-- Where the numbers agree the pods are asked for. -/
theorem ofController_of_eq (h : observed c = desired c) :
    ofController c = listPods (.forName c.nameOrEmpty) >>= fun pods =>
      done (compute (desired c) (observed c) pods) := by
  unfold ofController
  rw [if_pos h]
  rfl

/-- The pods are asked for once. -/
theorem transcript_ofController_of_eq (h : observed c = desired c) :
    (ofController c).transcript handler s =
      [⟨.listPods (.forName c.nameOrEmpty), (handler (.listPods (.forName c.nameOrEmpty)) s).1⟩] := by
  rw [ofController_of_eq h, transcript_bind_done, (asks_listPods _).transcript_eq]

/-- The result then is that of the listing of the pods, and its error if it fails. -/
theorem run_ofController_of_eq (h : observed c = desired c) :
    let listed : Except BackendError (List Pod) × σ :=
      handler (.listPods (.forName c.nameOrEmpty)) s
    (ofController c).run handler s =
      (match listed.1 with
        | .ok pods => .ok (compute (desired c) (observed c) pods)
        | .error e => .error (.error e.toError), listed.2) := by
  intro listed
  rw [ofController_of_eq h]
  change (ofReply listed.1 >>= _).run handler listed.2 = _
  cases listed.1 <;> rfl

end Finding

/-! ## Texts -/

/-- The text of a running deployment: the two numbers with a slash between them. -/
theorem toList_text_running (n : Nat) (d : Int32) : (running n d).text.toList =
    "running ".toList ++ (Decimal.digits n ++ '/' :: (Decimal.ofInt d.toInt).toList) := by
  simp [text]

/-- The text of a status says which one it is. -/
theorem text_injective : Function.Injective text := by
  have hfirst : ∀ n d, (running n d).text.toList.head? = some 'r' := by
    intro n d
    rw [toList_text_running]
    rfl
  have hrunning : ∀ {n d} {other : Status}, other.text.toList.head? ≠ some 'r' →
      (running n d).text ≠ other.text := by
    intro n d other hother h
    exact hother (h ▸ hfirst n d)
  intro a b h
  match a, b with
  | pending, pending => rfl
  | unknown, unknown => rfl
  | pending, unknown | unknown, pending => exact absurd h (by decide)
  | running n d, pending | running n d, unknown => exact absurd h (hrunning (by decide))
  | pending, running n d | unknown, running n d => exact absurd h.symm (hrunning (by decide))
  | running n d, running m e =>
      have htext := congrArg String.toList h
      rw [toList_text_running, toList_text_running] at htext
      obtain ⟨hcount, hdesired⟩ := Text.append_separator_inj
        (Decimal.not_mem_digits (by decide) n) (Decimal.not_mem_digits (by decide) m)
        (List.append_cancel_left htext)
      obtain rfl := Decimal.digits_injective hcount
      obtain rfl := Int32.toInt_inj.1 (Decimal.ofInt_injective (String.toList_inj.1 hdesired))
      rfl

/-! ## JSON -/

/-- The count of a running deployment is a number of 64 bits. -/
def Fits : Status → Prop
  | running n _ => n < 2 ^ 64
  | _ => True

/-- The two numbers of a running deployment are read back from what is written of them. -/
theorem reads_counts {n : Nat} (hn : n < 2 ^ 64) (d : Int32) :
    Json.Reads counts.read
      (Json.bytes (.object [("running", .integer n), ("desired", .integer d.toInt)])) (n, d) := by
  have hcount : Json.Reads Json.readCount (Json.bytes (.integer n)) n := by
    have hread : Json.Reads (Json.readInteger "usize" 0 18446744073709551615)
        (Json.bytes (.integer n)) (n : Int) :=
      Json.reads_integer (Int.natCast_nonneg n) (by omega) ⟨by omega, by omega⟩
    exact hread.map Int.toNat
  refine Json.Record.reads_object_of_takes ?_ (by simp [counts, Json.Member.mandatory])
  refine .cons (.inr (.inr (by simp))) (.known rfl (hcount.map _)) ?_
  refine .cons (.inr (.inr (by simp))) (.known rfl ((Json.reads_int32 d).map _)) ?_
  exact .nil _ _

/-- What is written of a status is read back. -/
theorem reads_toJson {a : Status} (h : a.Fits) : Json.Reads read (Json.bytes a.toJson) a := by
  cases a with
  | pending => exact Json.reads_bareVariant rfl
  | unknown => exact Json.reads_bareVariant rfl
  | running n d =>
      exact Json.reads_recordVariant rfl ((reads_counts h d).map fun x => running x.1 x.2)

/-- A status is read back from what is written of it. -/
theorem decode_toJson {a : Status} (h : a.Fits) :
    Json.decodeString read a.toJson.render = .ok a :=
  Json.decodeString_of_reads (reads_toJson h)

/-! ## Statuses of controllers -/

/-- A controller that has fewer pods than it asks for is pending, and the status of one that has more is
unknown; neither takes a call. Where the numbers agree the pods with its name are listed once. If that
fails so does the program, and otherwise the deployment is running, with as many pods as say that they
do. That is at most all of them, and only their phases matter, in any order. Statuses with one text are
one status, and so are those with one JSON form, which is read back. -/
theorem status_of_counts (handler : Handler σ) (s : σ) (c : Controller) :
    let asked := (c.spec.bind (·.replicas)).getD 1
    let seen := (c.status.map (·.replicas)).getD 0
    let selector := Selector.label "service-name" (c.metadata.name.getD "")
    let calls := (ofController c).transcript handler s
    let found := (ofController c).run handler s
    let listed : Except BackendError (List Pod) × σ := handler (.listPods selector) s
    (seen < asked → calls = [] ∧ found = (.ok pending, s)) ∧
    (asked < seen → calls = [] ∧ found = (.ok unknown, s)) ∧
    (seen = asked →
      calls = [⟨.listPods selector, listed.1⟩] ∧ found.2 = listed.2 ∧
      (∀ e, listed.1 = .error e → found.1 = .error (.error e.toError)) ∧
      ∀ pods, listed.1 = .ok pods →
        found.1 = .ok (running ((phases pods).count (some "Running")) asked)) ∧
    (∀ pods, seen ≠ asked ∨ listed.1 = .ok pods → found.1 = .ok (compute asked seen pods)) ∧
    (∀ pods : List Pod, (phases pods).count (some "Running") ≤ pods.length) ∧
    (∀ pods others, (phases pods).Perm (phases others) →
      compute asked seen pods = compute asked seen others) ∧
    Function.Injective text ∧
    (∀ a : Status, a.Fits → Json.decodeString read a.toJson.render = .ok a) ∧
    ∀ a b : Status, a.Fits → b.Fits → a.toJson.render = b.toJson.render → a = b := by
  intro asked seen selector calls found listed
  have hdiffer : seen ≠ asked → calls = [] ∧ ∀ pods, found = (.ok (compute asked seen pods), s) := by
    intro hne
    have hdone : ofController c = done (compute asked seen []) := ofController_of_ne hne
    refine ⟨?_, fun pods => ?_⟩
    · simp only [calls, hdone, transcript_done]
    · simp only [found, hdone, run_done, compute_of_ne hne [] pods]
  have hagree : seen = asked → found =
      (match listed.1 with
        | .ok pods => .ok (compute asked seen pods)
        | .error e => .error (.error e.toError), listed.2) := run_ofController_of_eq
  refine ⟨fun hlt => ?_, fun hgt => ?_, fun heq => ⟨?_, ?_, fun e he => ?_, fun pods hpods => ?_⟩,
    fun pods hpods => ?_, fun pods => count_phases_le pods _,
    fun pods others => compute_eq_of_perm asked seen, text_injective, fun a => decode_toJson,
    fun a b ha hb htext => ?_⟩
  · obtain ⟨hcalls, hfound⟩ := hdiffer (Int32.ne_of_lt hlt)
    rw [hcalls, hfound [], compute_of_lt hlt]
    exact ⟨rfl, rfl⟩
  · obtain ⟨hcalls, hfound⟩ := hdiffer (Int32.ne_of_lt hgt).symm
    rw [hcalls, hfound [], compute_of_gt hgt]
    exact ⟨rfl, rfl⟩
  · exact transcript_ofController_of_eq heq
  · rw [hagree heq]
  · rw [hagree heq, he]
  · rw [hagree heq, hpods, heq]
    exact congrArg Except.ok (compute_self asked pods)
  · by_cases heq : seen = asked
    · rw [hagree heq, hpods.resolve_left (not_not_intro heq)]
    · rw [(hdiffer heq).2 pods]
  · have hread := decode_toJson ha
    rw [htext, decode_toJson hb] at hread
    exact (Except.ok.inj hread).symm

/-- A backend with two pods of a deployment, one of which runs. -/
def halfRunning : Store where
  pods := ["Pending", "Running"].map fun phase => {
    metadata := { labels := some (.single "service-name" "web") }
    status := some { phase := some phase } }

/-- The controller of that deployment, which asks for two pods. -/
def controllerOfWeb (seen : Int32) : Controller where
  metadata := { name := some "web" }
  spec := some { replicas := some 2 }
  status := some { replicas := seen }

/-- A controller that asks for two pods, of which one runs: with one observed it is pending, with
three unknown, and with two its running pod is counted. -/
theorem status_of_counts_web :
    (ofController (controllerOfWeb 1)).run Store.handle halfRunning = (.ok pending, halfRunning) ∧
    (ofController (controllerOfWeb 3)).run Store.handle halfRunning = (.ok unknown, halfRunning) ∧
    ((ofController (controllerOfWeb 2)).run Store.handle halfRunning).1 = .ok (running 1 2) ∧
    compute 2 2 halfRunning.pods = compute 2 2 halfRunning.pods.reverse ∧
    Json.decodeString read (running 1 2).toJson.render = .ok (running 1 2) := by
  obtain ⟨hpending, -⟩ := status_of_counts Store.handle halfRunning (controllerOfWeb 1)
  obtain ⟨-, hunknown, -⟩ := status_of_counts Store.handle halfRunning (controllerOfWeb 3)
  obtain ⟨-, -, hequal, -, -, hperm, -, hread, -⟩ :=
    status_of_counts Store.handle halfRunning (controllerOfWeb 2)
  obtain ⟨-, -, -, hrunning⟩ := hequal (by decide)
  have hfits : 1 < 2 ^ 64 := by decide
  exact ⟨(hpending (by decide)).2, (hunknown (by decide)).2, hrunning halfRunning.pods (by rfl),
    hperm _ _ (List.map_reverse ▸ (List.reverse_perm _).symm), hread (running 1 2) hfits⟩

end Stevedore.Status
