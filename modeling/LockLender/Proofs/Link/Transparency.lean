import Mathlib.Logic.Relation
import LockLender.Proofs.Link.Dialogue
import LockLender.Script

namespace LockLender.Dialogue
variable {σ : Type} {inner : Service σ} {s : σ} {requests done ahead : List Request} {d next : Dialogue σ}
  {coming : List (Except LockFault Reply)} {rank : Nat}

-- What a dialogue has come to: the service did what was first to do, and what it replied is
-- returned or on its way.
structure Stands (inner : Service σ) (s : σ) (requests : List Request) (d : Dialogue σ) (done : List Request)
    (coming : List (Except LockFault Reply)) (ahead : List Request) (rank : Nat) : Prop where
  place : d.At coming ahead rank
  split : requests = done ++ ahead
  server : d.server = (inner.performAll s done).2
  results : d.results ++ coming.map relayed = (inner.performAll s done).1.map relayed

theorem Stands.fits (stands : Stands inner s requests d done coming ahead rank) (fits : inner.Fits s requests) :
    inner.Fits d.server ahead := by
  rw [stands.split,Service.fits_append] at fits
  exact stands.server ▸ fits.2

theorem Stands.step (stands : Stands inner s requests d done coming ahead rank) (fits : inner.Fits s requests)
    (step : Step inner d next) :
    ∃ done coming ahead rank', Stands inner s requests next done coming ahead rank' ∧
      (rank' < rank ∨ rank' = rank ∧ next.afloat < d.afloat) := by
  obtain ⟨coming',ahead',rank',place,does⟩ := step.leads (stands.fits fits) stands.place
  cases does with
  | moves server results less =>
      refine ⟨_,_,_,_,⟨place,stands.split,?_,?_⟩,less⟩
      · rw [server,stands.server]
      · rw [results,stands.results]
  | @serves request _ _ _ server results less =>
      have last := inner.performAll_append s done [request]
      simp only [Service.performAll,← stands.server] at last
      refine ⟨done ++ [request],_,_,_,⟨place,?_,?_,?_⟩,.inl less⟩
      · rw [stands.split,List.append_assoc]
        rfl
      · rw [last,server]
      · rw [last,results,List.map_append,← stands.results]
        simp
  | returns server results less =>
      refine ⟨_,_,_,_,⟨place,stands.split,?_,?_⟩,.inl less⟩
      · rw [server,stands.server]
      · rw [results,← stands.results]
        simp

theorem start_stands (inner : Service σ) (s : σ) (requests : List Request) :
    Stands inner s requests { server := s, todo := requests } [] [] requests (8 * requests.length) := by
  constructor
  · exact ⟨[],[],[],⟨rfl,rfl,rfl,rfl,rfl⟩,.resting Caller.opened_idle rfl⟩
  · rfl
  · rfl
  · rfl

theorem run_stands (fits : inner.Fits s requests)
    (run : Relation.ReflTransGen (Step inner) { server := s, todo := requests } d) :
    ∃ done coming ahead rank, Stands inner s requests d done coming ahead rank := by
  induction run with
  | refl => exact ⟨_,_,_,_,start_stands inner s requests⟩
  | tail run step ih =>
      obtain ⟨done,coming,ahead,rank,stands⟩ := ih
      obtain ⟨done,coming,ahead,rank,stands,-⟩ := stands.step fits step
      exact ⟨done,coming,ahead,rank,stands⟩

theorem Stands.finite (fits : inner.Fits s requests) (stands : Stands inner s requests d done coming ahead rank) :
    Acc (fun next d => Step inner d next) d := by
  induction rank using Nat.strongRecOn generalizing d done coming ahead with
  | _ rank lower =>
      induction float : d.afloat using Nat.strongRecOn generalizing d done coming ahead with
      | _ _ fewer =>
          constructor
          intro next step
          obtain ⟨done,coming,ahead,rank',stands',less | ⟨rfl,less⟩⟩ := stands.step fits step
          · exact lower rank' less stands'
          · exact fewer _ (float ▸ less) stands' rfl

structure Agrees (inner : Service σ) (s : σ) (requests : List Request) (d : Dialogue (σ × List Request)) : Prop where
  asked : d.server.2 <+: requests
  state : d.server.1 = (inner.performAll s d.server.2).2
  returned : d.results <+: (inner.performAll s requests).1.map relayed
  -- It comes to a halt only when every call has returned.
  halted : (∀ next, ¬ Step inner.noted d next) →
    d.server.2 = requests ∧ d.results = (inner.performAll s requests).1.map relayed

theorem Stands.agrees {d : Dialogue (σ × List Request)} (fits : inner.Fits s requests)
    (stands : Stands inner.noted (s,[]) requests d done coming ahead rank) : Agrees inner s requests d := by
  have noted := inner.performAll_noted s [] done
  have server := stands.server
  have results := stands.results
  rw [noted,List.nil_append] at server
  rw [noted] at results
  have whole : (inner.performAll s requests).1.map relayed = d.results ++ coming.map relayed ++
      (inner.performAll d.server.1 ahead).1.map relayed := by
    rw [results,stands.split,inner.performAll_append,List.map_append,server]
  constructor
  · rw [server,stands.split]
    exact List.prefix_append _ _
  · rw [server]
  · rw [whole,List.append_assoc]
    exact List.prefix_append _ _
  · intro halts
    have ahead := stands.fits ((inner.fits_noted s [] requests).mpr fits)
    obtain ⟨next,step⟩ | ⟨rfl,rfl⟩ := stands.place.progress ahead
    · exact absurd step (halts next)
    · rw [whole,server,stands.split]
      simp [Service.performAll]

-- Over a connection that stays whole a service does what it does by itself, in the same order and with
-- the same locks and clients, and its replies come back: in a single course of the two ends, and in
-- every other, none of which goes on for ever.
theorem transparent (inner : Service σ) (s : σ) (requests : List Request) (fits : inner.Fits s requests) :
    (∀ millis blocking, ∃ caller : Caller,
      (Remote.service inner.noted millis blocking).performAll { server := (s,[]) } requests =
        ((inner.performAll s requests).1.map relayed,
          { caller, server := ((inner.performAll s requests).2,requests) })) ∧
    (∀ d, Relation.ReflTransGen (Step inner.noted) { server := (s,[]), todo := requests } d →
      Agrees inner s requests d) ∧
    Acc (fun next d => Step inner.noted d next) { server := (s,[]), todo := requests } := by
  have fits' : inner.noted.Fits (s,[]) requests := (inner.fits_noted s [] requests).mpr fits
  refine ⟨?_,?_,?_⟩
  · intro millis blocking
    have idle : ({ server := (s,[]) } : Remote (σ × List Request)).caller.Idle := Caller.opened_idle
    obtain ⟨caller,-,performed⟩ := Remote.performAll_service millis blocking requests idle fits'
    rw [inner.performAll_noted] at performed
    exact ⟨caller,performed⟩
  · intro d run
    obtain ⟨done,coming,ahead,rank,stands⟩ := run_stands fits' run
    exact stands.agrees fits
  · exact (start_stands inner.noted (s,[]) requests).finite fits'

def errands : List Request := [.acquire ⟨7⟩ ⟨"Zoë"⟩,.release ⟨7⟩ ⟨"b"⟩,.stat ⟨7⟩]

def told : Script := { replies := [.ok .granted,.error (.notHeld ⟨7⟩),.ok (.count 1)] }

theorem transparent_errands :
    Script.service.Fits told errands ∧
      (∃ caller : Caller, (Remote.service Script.service.noted 500 true).performAll { server := (told,[]) } errands =
        ([.ok .granted,.error (.link (.remote "remote handler failed: lock 7 is not held by this client")),
          .ok (.count 1)],{ caller, server := (⟨[],errands⟩,errands) })) ∧
      Agrees Script.service told errands { server := (told,[]), todo := errands } := by
  have fits : Script.service.Fits told errands := by
    refine ⟨⟨?_,?_⟩,⟨?_,?_⟩,⟨?_,?_⟩,trivial⟩ <;> decide
  obtain ⟨single,every,-⟩ := transparent Script.service told errands fits
  have words : (LockFault.notHeld ⟨7⟩).words = "remote handler failed: lock 7 is not held by this client" := by decide
  have replies : (Script.service.performAll told errands).1.map relayed = [.ok .granted,
      .error (.link (.remote "remote handler failed: lock 7 is not held by this client")),.ok (.count 1)] := by
    rw [← words]
    rfl
  refine ⟨fits,?_,every _ .refl⟩
  rw [← replies]
  exact single 500 true

end LockLender.Dialogue
