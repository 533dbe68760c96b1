import LockLender.Proofs.Fleet.Outlook

namespace LockLender
open Borrower
open Function (update)

namespace Outlook

structure Tidy (o : Outlook) : Prop where
  orderly : o.loan.Orderly
  held : ∀ client, o.holds client = (o.seat client).stage.holds

variable {trouble : Fleet.Trouble} {lock : LockId} {o next : Outlook} {forfeit : Option ClientId}
  {client : ClientId}

theorem Tidy.enter (tidy : o.Tidy) {stage : Stage} (before : (o.seat client).stage ≠ .held)
    (after : stage ≠ .held) (other : ClientId) :
    o.holds other = ((o.enter client stage).seat other).stage.holds := by
  by_cases same : other = client
  · rw [same,tidy.held client,enter_self]
    simp [Stage.holds,before,after]
  · rw [enter_other o same,tidy.held]

theorem Step.tidy (step : o.Step trouble lock forfeit next) (tidy : o.Tidy) : next.Tidy := by
  have seated (client : ClientId) (seat : Seat) (count : Nat) (same : count = seat.stage.holds)
      (other : ClientId) : update o.holds client count other = (update o.seat client seat other).stage.holds := by
    by_cases acting : other = client
    · rw [acting,Function.update_self,Function.update_self,same]
    · rw [Function.update_of_ne acting,Function.update_of_ne acting,tidy.held]
  cases step with
  | rest | revokeLost | retryLost => exact ⟨tidy.orderly,tidy.held⟩
  | act client input got seat kind step =>
      refine ⟨tidy.orderly,seated client seat _ ?_⟩
      rw [step.holds (by rcases kind with rfl | rfl <;> nofun),tidy.held]
  | release client seat holding step =>
      rw [tidy.held] at holding
      obtain ⟨one,none⟩ := step.releases holding
      exact ⟨tidy.orderly,seated client seat _ (by rw [tidy.held,one,none])⟩
  | asked client status told loan asking asked =>
      exact ⟨asked.orderly tidy.orderly,tidy.enter (by simp [asking]) (by cases status <;> nofun)⟩
  | returned client told loan returning returned =>
      exact ⟨returned.orderly tidy.orderly,tidy.enter (by simp [returning]) nofun⟩
  | askRefused client _ asking => exact ⟨tidy.orderly,tidy.enter (by simp [asking]) nofun⟩
  | returnRefused client _ returning => exact ⟨tidy.orderly,tidy.enter (by simp [returning]) nofun⟩
  | askLost client _ asking =>
      refine ⟨tidy.orderly,tidy.enter (fun held => ?_) nofun⟩
      rw [held] at asking
      cases asking
  | returnLost client _ returned => exact ⟨tidy.orderly,tidy.enter (by simp [returned]) nofun⟩
  | revoked client seat _ step =>
      refine ⟨tidy.orderly,fun other => ?_⟩
      have same := seated client seat (o.holds client) (by rw [step.holds nofun,tidy.held]; rfl) other
      rwa [Function.update_eq_self] at same
  | signaled client seat _ _ step =>
      refine ⟨tidy.orderly,fun other => ?_⟩
      have same := seated client seat (o.holds client) (by rw [step.holds nofun,tidy.held]; rfl) other
      rwa [Function.update_eq_self] at same
  | revokeFailed client _ own =>
      refine ⟨⟨tidy.orderly.apart,tidy.orderly.once,fun free => ?_⟩,tidy.held⟩
      rw [show o.loan.owner = none from free] at own
      cases own

end Outlook

namespace Fleet
variable {trouble : Trouble} {roll : Roll} {past : History} {fleet : Fleet} {client : ClientId} {lock : LockId}

theorem Run.tidy (run : Run trouble roll past fleet) (lock : LockId) : (fleet.outlook past lock).Tidy :=
  run.always lock (fun o _ => o.Tidy) ⟨Loan.new_orderly,fun _ => rfl⟩ fun _ _ _ _ step tidy => step.tidy tidy

theorem Run.seat_state (run : Run trouble roll past fleet) (client : ClientId) (lock : LockId) :
    (fleet.seat client lock).stage.state = fleet.state client lock :=
  Fleet.seat_state run.intact.staffed

theorem Run.stage_held (run : Run trouble roll past fleet) :
    (fleet.seat client lock).stage = .held ↔ fleet.state client lock = .held := by
  rw [← run.seat_state]
  cases (fleet.seat client lock).stage <;> simp [Stage.state]

theorem Run.stage_free (run : Run trouble roll past fleet) :
    (fleet.seat client lock).stage = .free ↔ fleet.state client lock = .cachedFree := by
  rw [← run.seat_state]
  cases (fleet.seat client lock).stage <;> simp [Stage.state]

theorem Run.holds_count (run : Run trouble roll past fleet) (client : ClientId) (lock : LockId) :
    (holds past).count (client,lock) = if fleet.state client lock = .held then 1 else 0 := by
  have held := (run.tidy lock).held client
  change (holds past).count (client,lock) = (fleet.seat client lock).stage.holds at held
  simp only [held,Stage.holds,run.stage_held]

theorem Run.mem_holds (run : Run trouble roll past fleet) :
    (client,lock) ∈ holds past ↔ fleet.state client lock = .held := by
  rw [← List.count_pos_iff,run.holds_count]
  split <;> simp [*]

theorem Run.holds_nodup (run : Run trouble roll past fleet) : (holds past).Nodup := by
  refine List.nodup_iff_count_le_one.mpr fun (client,lock) => ?_
  rw [run.holds_count]
  split <;> omega

end Fleet
end LockLender
