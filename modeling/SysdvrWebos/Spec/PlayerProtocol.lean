/-
Module: SysdvrWebos.Spec.PlayerProtocol
Layer: Spec
Purpose: The call protocol of the DirectMedia player, which exists once per process: an initialized player
  is put into the foreground, loaded at most once, fed only while it is loaded, and torn down before the
  next one is initialized. The protocol is given twice, as the grammar of one player's life and as an
  automaton over the calls; a trace is a sequence of lives with a begun one behind them exactly if the
  automaton runs over it.
Trusted boundary: none
Main exports: PlayerLife, FollowsProtocol, PlayerPhase, playerStep, Begun, exec_playerStep_iff,
  followsProtocol_iff, FollowsProtocol.paired
Open obligations: none
-/
import Mathlib.Data.List.Induction
import SysdvrWebos.Core.NdlMedia
import SysdvrWebos.Lib.Runs

namespace SysdvrWebos

/-- A call that feeds the player. -/
def NdlCall.isPlay : NdlCall → Bool
  | .play _ _ _ _ => true
  | _ => false

/-- A load that has succeeded. -/
def NdlCall.isLoaded : NdlCall → Bool
  | .load _ _ _ succeeds => succeeds
  | _ => false

/-- The calls on one player, from its initialization to its end. -/
inductive PlayerLife : List NdlCall → Prop where
  | refused : PlayerLife [.init false]
  | unused : PlayerLife [.init true, .setAppState, .quit]
  | unloadable (width height : UInt32) (withAudio : Bool) :
      PlayerLife [.init true, .setAppState, .load width height withAudio false, .quit]
  | played (width height : UInt32) (withAudio : Bool) (plays : List NdlCall)
      (only : ∀ call ∈ plays, call.isPlay = true) :
      PlayerLife ([.init true, .setAppState, .load width height withAudio true, .setArea] ++ plays
        ++ [.unload, .quit])

/-- The calls are those of some players, one life after the other. -/
def FollowsProtocol (calls : List NdlCall) : Prop :=
  ∃ lives : List (List NdlCall), calls = lives.flatten ∧ ∀ life ∈ lives, PlayerLife life

/-! ### The automaton -/

/-- Where the life of the player stands. -/
inductive PlayerPhase where
  | off
  | initialized
  | foreground
  | unloadable
  | loaded
  | playing
  | unloaded
deriving Repr, DecidableEq

/-- The calls the protocol allows. -/
def playerStep : PlayerPhase → NdlCall → Option PlayerPhase
  | .off, .init succeeds => some (if succeeds then .initialized else .off)
  | .initialized, .setAppState => some .foreground
  | .foreground, .load _ _ _ succeeds => some (if succeeds then .loaded else .unloadable)
  | .foreground, .quit => some .off
  | .unloadable, .quit => some .off
  | .loaded, .setArea => some .playing
  | .playing, .play _ _ _ _ => some .playing
  | .playing, .unload => some .unloaded
  | .unloaded, .quit => some .off
  | _, _ => none

/-- The calls of a life that has come to the given phase. -/
inductive Begun : PlayerPhase → List NdlCall → Prop where
  | off : Begun .off []
  | initialized : Begun .initialized [.init true]
  | foreground : Begun .foreground [.init true, .setAppState]
  | unloadable (width height : UInt32) (withAudio : Bool) :
      Begun .unloadable [.init true, .setAppState, .load width height withAudio false]
  | loaded (width height : UInt32) (withAudio : Bool) :
      Begun .loaded [.init true, .setAppState, .load width height withAudio true]
  | playing (width height : UInt32) (withAudio : Bool) (plays : List NdlCall)
      (only : ∀ call ∈ plays, call.isPlay = true) :
      Begun .playing
        ([.init true, .setAppState, .load width height withAudio true, .setArea] ++ plays)
  | unloaded (width height : UInt32) (withAudio : Bool) (plays : List NdlCall)
      (only : ∀ call ∈ plays, call.isPlay = true) :
      Begun .unloaded
        ([.init true, .setAppState, .load width height withAudio true, .setArea] ++ plays ++ [.unload])

/-- A call the protocol allows continues the life or ends it. -/
theorem Begun.step {phase next : PlayerPhase} {calls : List NdlCall} {call : NdlCall}
    (begun : Begun phase calls) (step : playerStep phase call = some next) :
    Begun next (calls ++ [call]) ∨ next = .off ∧ PlayerLife (calls ++ [call]) := by
  cases begun with
  | off =>
      cases call <;> cases step
      rename_i succeeds
      cases succeeds with
      | false => exact Or.inr ⟨rfl, .refused⟩
      | true => exact Or.inl .initialized
  | initialized =>
      cases call <;> cases step
      exact Or.inl .foreground
  | foreground =>
      cases call with
      | load width height withAudio succeeds =>
          cases step
          cases succeeds with
          | false => exact Or.inl (.unloadable width height withAudio)
          | true => exact Or.inl (.loaded width height withAudio)
      | quit =>
          cases step
          exact Or.inr ⟨rfl, .unused⟩
      | _ => cases step
  | unloadable width height withAudio =>
      cases call <;> cases step
      exact Or.inr ⟨rfl, .unloadable width height withAudio⟩
  | loaded width height withAudio =>
      cases call <;> cases step
      exact Or.inl (.playing width height withAudio [] (by simp))
  | playing width height withAudio plays only =>
      cases call with
      | play audio data ptsUs succeeds =>
          cases step
          left
          rw [List.append_assoc]
          apply Begun.playing width height withAudio
          intro call member
          rcases List.mem_append.mp member with earlier | last
          · exact only call earlier
          · rw [List.mem_singleton.mp last]
            rfl
      | unload =>
          cases step
          exact Or.inl (.unloaded width height withAudio plays only)
      | _ => cases step
  | unloaded width height withAudio plays only =>
      cases call <;> cases step
      right
      have life := PlayerLife.played width height withAudio plays only
      exact ⟨rfl, by simpa using life⟩

/-! ### The grammar and the automaton -/

theorem exec_plays {plays : List NdlCall} (only : ∀ call ∈ plays, call.isPlay = true) :
    Runs.exec playerStep .playing plays = some .playing := by
  induction plays with
  | nil => rfl
  | cons call plays ih =>
      have here : playerStep .playing call = some .playing := by
        have play := only call List.mem_cons_self
        cases call with
        | play audio data ptsUs succeeds => rfl
        | _ => cases play
      have rest := ih fun call member => only call (List.mem_cons_of_mem _ member)
      exact Runs.exec_cons.mpr ⟨.playing, here, rest⟩

theorem exec_loaded_plays {width height : UInt32} {withAudio : Bool} {plays : List NdlCall}
    (only : ∀ call ∈ plays, call.isPlay = true) :
    Runs.exec playerStep .off
      ([.init true, .setAppState, .load width height withAudio true, .setArea] ++ plays)
      = some .playing :=
  Runs.exec_append.mpr ⟨.playing, rfl, exec_plays only⟩

theorem Begun.exec {phase : PlayerPhase} {calls : List NdlCall} (begun : Begun phase calls) :
    Runs.exec playerStep .off calls = some phase := by
  cases begun with
  | off => rfl
  | initialized => rfl
  | foreground => rfl
  | unloadable width height withAudio => rfl
  | loaded width height withAudio => rfl
  | playing width height withAudio plays only =>
      exact exec_loaded_plays only
  | unloaded width height withAudio plays only =>
      exact Runs.exec_append.mpr ⟨.playing, exec_loaded_plays only, rfl⟩

theorem PlayerLife.exec {life : List NdlCall} (lives : PlayerLife life) :
    Runs.exec playerStep .off life = some .off := by
  cases lives with
  | refused => rfl
  | unused => rfl
  | unloadable width height withAudio => rfl
  | played width height withAudio plays only =>
      exact Runs.exec_append.mpr ⟨.playing, exec_loaded_plays only, rfl⟩

theorem exec_lives {lives : List (List NdlCall)} (all : ∀ life ∈ lives, PlayerLife life) :
    Runs.exec playerStep .off lives.flatten = some .off := by
  induction lives with
  | nil => rfl
  | cons life lives ih =>
      have first := (all life List.mem_cons_self).exec
      have rest := ih fun life member => all life (List.mem_cons_of_mem _ member)
      rw [List.flatten_cons]
      exact Runs.exec_append.mpr ⟨.off, first, rest⟩

/-- The automaton comes to a phase exactly over complete lives with one begun up to that phase. -/
theorem exec_playerStep_iff {calls : List NdlCall} {phase : PlayerPhase} :
    Runs.exec playerStep .off calls = some phase ↔
      ∃ lives begun, calls = List.flatten lives ++ begun ∧ (∀ life ∈ lives, PlayerLife life) ∧
        Begun phase begun := by
  constructor
  · induction calls using List.reverseRecOn generalizing phase with
    | nil =>
        intro run
        cases run
        exact ⟨[], [], rfl, by simp, .off⟩
    | append_singleton calls call ih =>
        intro run
        obtain ⟨middle, before, after⟩ := Runs.exec_append.mp run
        obtain ⟨next, step, last⟩ := Runs.exec_cons.mp after
        cases last
        obtain ⟨lives, begun, rfl, all, here⟩ := ih before
        rcases here.step step with goesOn | ⟨rfl, life⟩
        · exact ⟨lives, begun ++ [call], List.append_assoc _ _ _, all, goesOn⟩
        · refine ⟨lives ++ [begun ++ [call]], [], by simp, ?_, .off⟩
          intro life' member
          rcases List.mem_append.mp member with earlier | last
          · exact all life' earlier
          · rw [List.mem_singleton.mp last]
            exact life
  · intro ⟨lives, begun, split, all, here⟩
    rw [split]
    exact Runs.exec_append.mpr ⟨.off, exec_lives all, here.exec⟩

/-- No player is alive behind a trace exactly if it consists of whole lives. -/
theorem followsProtocol_iff {calls : List NdlCall} :
    FollowsProtocol calls ↔ Runs.exec playerStep .off calls = some .off := by
  constructor
  · intro ⟨lives, split, all⟩
    rw [split]
    exact exec_lives all
  · intro run
    obtain ⟨lives, begun, split, all, here⟩ := exec_playerStep_iff.mp run
    cases here
    exact ⟨lives, by rw [split, List.append_nil], all⟩

/-! ### Setups and teardowns -/

/-- Each initialization has its end and each load its unload. -/
def Paired (calls : List NdlCall) : Prop :=
  calls.count (.init true) = calls.count .quit ∧ calls.countP NdlCall.isLoaded = calls.count .unload

theorem Paired.append {first second : List NdlCall} (one : Paired first) (two : Paired second) :
    Paired (first ++ second) := by
  simp only [Paired, List.count_append, List.countP_append, one.1, one.2, two.1, two.2, and_self]

theorem paired_of_plays {plays : List NdlCall} (only : ∀ call ∈ plays, call.isPlay = true) :
    Paired plays := by
  have apart : ∀ call : NdlCall, call.isPlay = false → plays.count call = 0 := by
    intro call other
    rw [List.count_eq_zero]
    intro member
    rw [only call member] at other
    cases other
  have unloaded : plays.countP NdlCall.isLoaded = 0 := by
    rw [List.countP_eq_zero]
    intro call member loaded
    have play := only call member
    cases call with
    | play audio data ptsUs succeeds => cases loaded
    | _ => cases play
  exact ⟨by rw [apart _ rfl, apart _ rfl], by rw [unloaded, apart _ rfl]⟩

theorem PlayerLife.paired {life : List NdlCall} (lives : PlayerLife life) : Paired life := by
  cases lives with
  | refused => exact ⟨rfl, rfl⟩
  | unused => exact ⟨rfl, rfl⟩
  | unloadable width height withAudio => exact ⟨rfl, rfl⟩
  | played width height withAudio plays only =>
      rcases paired_of_plays only with ⟨initialized, loads⟩
      simp only [Paired, List.count_append, List.countP_append, initialized, loads]
      constructor
      · change 1 + _ + 0 = 0 + _ + 1
        omega
      · change 1 + _ + 0 = 0 + _ + 1
        omega

theorem FollowsProtocol.paired {calls : List NdlCall} (follows : FollowsProtocol calls) :
    Paired calls := by
  obtain ⟨lives, split, all⟩ := follows
  rw [split]
  clear split
  induction lives with
  | nil => exact ⟨rfl, rfl⟩
  | cons life lives ih =>
      rw [List.flatten_cons]
      exact (all life List.mem_cons_self).paired.append
        (ih fun life member => all life (List.mem_cons_of_mem _ member))

end SysdvrWebos
