import Stevedore.Proofs.Json.Extent
import Stevedore.Options.Parse
/-!
# Configurations that are admitted

A configuration comes from the options of the server or from JSON. Either way its timeout is a whole
number of seconds and its poll interval one of milliseconds.

Main definition: `Config.Admitted`.

Main results:

- Theorem `Json.Record.Keeps.read`: what no member changes holds of a record that was read.
- Theorem `Config.Admitted.countsWhole`: the two spans of an admitted configuration.
-/

namespace Stevedore

/-! ## What holds of a record that was read -/

namespace Json.Record

variable {σ : Type} {r : Record σ} {P : σ → Prop}

/-- No member changes whether this holds. -/
def Keeps (r : Record σ) (P : σ → Prop) : Prop :=
  ∀ m ∈ r.members, ∀ s c t after, P s → m.read s c = .ok (t, after) → P t

/-- A member that may be left out keeps what the value that it enters does not matter for. -/
theorem keeps_optional {key : String} {read : Reader α} {set : α → σ → σ}
    (hset : ∀ a s, P s → P (set a s)) {s t : σ} {c after : Cursor} (hs : P s)
    (h : (Member.optional key read set).read s c = .ok (t, after)) : P t := by
  change Reader.map (set · s) read c = _ at h
  unfold Reader.map at h
  split at h
  · obtain ⟨rfl, -⟩ := Prod.mk.inj (Except.ok.inj h)
    exact hset _ s hs
  · contradiction

/-- The member with a key is one of the members. -/
theorem mem_of_member? {key : String} {m : Member σ} (h : r.member? key = some m) :
    m ∈ r.members :=
  List.mem_of_find?_eq_some h

/-- What no member changes holds after all members of an object. -/
theorem Keeps.readMembers (hkeeps : r.Keeps P) {first : Bool} {seen keys : List String} {s t : σ}
    {c after : Cursor} (hs : P s) (h : r.readMembers first seen s c = .ok ((t, keys), after)) :
    P t := by
  fun_induction r.readMembers first seen s c with
  | case2 first seen s c after hend =>
      obtain ⟨hpair, -⟩ := Prod.mk.inj (Except.ok.inj h)
      obtain ⟨rfl, -⟩ := Prod.mk.inj hpair
      exact hs
  | case7 first seen s c _ _ key _ _ _ here _ value u later hvalue _ ih =>
      refine ih ?_ h
      cases hm : r.member? key with
      | some m =>
          have hread : m.read s here = .ok (u, later) := by
            simpa only [value, hm] using hvalue
          exact hkeeps m (mem_of_member? hm) s here u later hs hread
      | none =>
          have hpassed : Reader.map (fun _ => s) r.passOver here = .ok (u, later) := by
            simpa only [value, hm] using hvalue
          unfold Reader.map at hpassed
          split at hpassed
          · obtain ⟨rfl, -⟩ := Prod.mk.inj (Except.ok.inj hpassed)
            exact hs
          · contradiction
  | _ => simp [fail] at h

/-- What no member changes holds after the values of a list. -/
theorem Keeps.readValues (hkeeps : r.Keeps P) {members : List (Member σ)}
    (hmembers : ∀ m ∈ members, m ∈ r.members) {index : Nat} {first : Bool} {s t : σ}
    {c after : Cursor} (hs : P s) (h : r.readValues index first s members c = .ok (t, after)) :
    P t := by
  fun_induction r.readValues index first s members c with
  | case1 =>
      obtain ⟨rfl, -⟩ := Prod.mk.inj (Except.ok.inj h)
      exact hs
  | case4 index first s m rest c here _ u later hread ih =>
      rw [List.forall_mem_cons] at hmembers
      exact ih hmembers.2 (hkeeps m hmembers.1 s here u later hs hread) h
  | case6 index first s m rest c here _ _ ih =>
      rw [List.forall_mem_cons] at hmembers
      exact ih hmembers.2 hs h
  | _ => simp at h

/-- What holds at first and is changed by no member holds of a record that was read. -/
theorem Keeps.read (hkeeps : r.Keeps P) (hinitial : P r.initial) {c after : Cursor} {t : σ}
    (h : r.read c = .ok (t, after)) : P t := by
  rcases read_ok h with ⟨-, seen, stop, hmembers, -⟩ | ⟨-, stop, hvalues, -⟩
  · exact hkeeps.readMembers hinitial hmembers
  · exact hkeeps.readValues (fun m hm => hm) hinitial hvalues

end Json.Record

/-! ## Configurations -/

namespace Config

/-- The configuration comes from options that were accepted, or from JSON that was. -/
inductive Admitted : Config → Prop
  | ofOptions {args : List String} {env : Options.Environment} {o : Options}
      (h : Options.parse args env = .ok o) : Admitted o.config
  | ofJson {text : String} {config : Config}
      (h : Json.decodeString record.read text = .ok config) : Admitted config

/-- The timeout counts seconds, and the poll interval milliseconds. -/
def CountsWhole (config : Config) : Prop :=
  ∃ seconds millis, config.teardownTimeout = .ofSeconds seconds ∧
    config.pollInterval = .ofMillis millis

/-- No member of a configuration gives it another kind of span. -/
theorem keeps_countsWhole : record.Keeps CountsWhole := by
  intro m hm s c t after hs hread
  unfold record at hm
  simp only [List.mem_cons, List.not_mem_nil, or_false] at hm
  rcases hm with rfl | rfl | rfl | rfl | rfl
  · refine Json.Record.keeps_optional ?_ hs hread
    exact fun _ _ h => h
  · refine Json.Record.keeps_optional ?_ hs hread
    exact fun _ _ h => h
  · refine Json.Record.keeps_optional ?_ hs hread
    exact fun _ _ h => h
  · exact Json.Record.keeps_optional (fun seconds _ ⟨_, millis, _, hpoll⟩ =>
      ⟨seconds, millis, rfl, hpoll⟩) hs hread
  · exact Json.Record.keeps_optional (fun millis _ ⟨seconds, _, htimeout, _⟩ =>
      ⟨seconds, millis, htimeout, rfl⟩) hs hread

/-- The two spans of an admitted configuration are whole numbers of seconds and of milliseconds. -/
theorem Admitted.countsWhole {config : Config} (h : config.Admitted) : config.CountsWhole := by
  cases h with
  | @ofOptions args env o _ => exact ⟨o.teardownTimeoutSecs, o.pollIntervalMillis, rfl, rfl⟩
  | @ofJson text _ h =>
      obtain ⟨stop, hread⟩ := Json.decode_ok h
      exact keeps_countsWhole.read ⟨10, 500, rfl, rfl⟩ hread

end Config

end Stevedore
