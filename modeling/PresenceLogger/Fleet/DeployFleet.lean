import PresenceLogger.Fleet.DeployOutcome
import PresenceLogger.Library.Parties
import Mathlib.Data.List.DropRight

/-!
# Deploying to the fleet

The children of the inventory are deployed to one after the other.  The first failure ends it,
so that a release that does not work comes to one child at most.
-/

namespace PresenceLogger.Fleet.Deploy

open Library

/-! ## The script -/

/-- A line of `children.conf`, as `sed` leaves it. -/
def inventoryLine (line : List Char) : List Char :=
  ((line.takeWhile (· ≠ '#')).dropWhile isClassSpace).rdropWhile isClassSpace

inductive InventoryFault where
  | missing
  | empty

/-- What `die` says of the file. -/
def InventoryFault.message (file : String) : InventoryFault → String
  | .missing => "インベントリが無い: " ++ file
  | .empty => "インベントリに有効なホストがありません: " ++ file

/-- `fleet_read_inventory` -/
def fleetReadInventory (inventory : Option (List Char)) :
    Except InventoryFault (List (List Char)) :=
  match inventory with
  | none => .error .missing
  | some text =>
      match (((text.splitOn '\n').map inventoryLine).filter (· ≠ [])).eraseDups with
      | [] => .error .empty
      | hosts => .ok hosts

abbrev FleetScript := Dialogue (List Char × Ask) (fun question => Reply question.2) Exit

structure Rollout where
  settings : Settings
  options : Options
  source : Source
  keepGoing : Bool
  /-- `TS` of the deployment to a child. -/
  tag : List Char → String

/-- The children so far. -/
structure Results where
  /-- `OK_HOSTS` -/
  succeeded : List (List Char) := []
  /-- `NG_HOSTS` -/
  failed : List (List Char) := []

def Results.success (results : Results) (host : List Char) : Results :=
  { results with succeeded := results.succeeded ++ [host] }

def Results.failure (results : Results) (host : List Char) : Results :=
  { results with failed := results.failed ++ [host] }

def Results.exitStatus (results : Results) : Nat := if results.failed = [] then 0 else 1

namespace Rollout

/-- `deploy-child.sh` for a child; only its exit status is looked at. -/
def deployTo (rollout : Rollout) (host : List Char) : FleetScript Bool :=
  ((deployChild { rollout.settings with host := String.ofList host, apIp := [] }
    rollout.options rollout.source (rollout.tag host)).to host >>= fun _ => pure true).handle
      fun _ => pure false

/-- The loop of `deploy-fleet.sh`. -/
def deployEach (rollout : Rollout) : List (List Char) → Results → FleetScript Results
  | [], results => return results
  | host :: hosts, results => do
      if ← rollout.deployTo host then rollout.deployEach hosts (results.success host)
      else if rollout.keepGoing then rollout.deployEach hosts (results.failure host)
      else return results.failure host

/-- `deploy-fleet.sh app`, for the children it is to deploy to. -/
def deployFleet (rollout : Rollout) (hosts : List (List Char)) : FleetScript Results :=
  rollout.deployEach hosts {}

end Rollout

theorem nodup_eraseDups (names : List (List Char)) : names.eraseDups.Nodup := by
  cases names with
  | nil => exact List.nodup_nil
  | cons name names =>
      rw [List.eraseDups_cons, List.nodup_cons]
      constructor
      · simp [List.mem_eraseDups]
      · exact nodup_eraseDups _
termination_by names.length
decreasing_by
  have shorter := List.length_filter_le (fun other => !other == name) names
  rw [List.length_cons]
  omega

/-- No child is deployed to twice. -/
theorem nodup_fleetReadInventory {inventory : Option (List Char)} {hosts : List (List Char)}
    (isRead : fleetReadInventory inventory = .ok hosts) : hosts.Nodup := by
  cases inventory with
  | none => cases isRead
  | some text =>
      have nodup := nodup_eraseDups (((text.splitOn '\n').map inventoryLine).filter (· ≠ []))
      rw [fleetReadInventory] at isRead
      split at isRead
      · cases isRead
      · cases isRead
        exact nodup

/-! ## The fleet -/

section Fleet

variable (relied : Relied) (rollout : Rollout) (entries : List (String × Content))
  (first : List Char → Child)

/-- What a child is held to; the one that is being deployed to counts as a failure. -/
structure Stands (results : Results) (host : List Char) (now : Child) : Prop where
  begun : host ∈ results.failed → Intact relied entries (first host) now
  updated : host ∈ results.succeeded → rollout.options.dryRun = false →
    Updated relied rollout.source entries now
  waiting : host ∉ results.failed → host ∉ results.succeeded → Drifts relied (first host) now

def FleetStands (results : Results) (now : List Char → Child) : Prop :=
  ∀ host, Stands relied rollout entries first results host (now host)

/-- Without `--keep-going` there is at most one failure. -/
def Contained (results : Results) : Prop :=
  rollout.keepGoing = false → results.failed.length ≤ 1

/-- What holds wherever the script is cut off. -/
def FleetIntact (now : List Char → Child) : Prop :=
  ∃ results, Contained rollout results ∧ FleetStands relied rollout entries first results now

/-- The fleet, where the children that are not asked go on by themselves. -/
def onFleet : Environment (List Char × Ask) (fun question => Reply question.2)
    (List Char → Child) :=
  (onChild relied).parties (Drifts relied)

end Fleet

section Rollouts

variable {relied : Relied} {rollout : Rollout} {entries : List (String × Content)}
  {first now : List Char → Child} {results : Results} {host : List Char}

theorem Stands.drifts {before after : Child}
    (stands : Stands relied rollout entries first results host before)
    (drifts : Drifts relied before after) :
    Stands relied rollout entries first results host after where
  begun failed room whole :=
    (stands.begun failed room (drifts.broken.symm.trans whole)).settled drifts.settled
  updated succeeded notDry := (stands.updated succeeded notDry).drifts drifts
  waiting notFailed notSucceeded := (stands.waiting notFailed notSucceeded).trans drifts

theorem Stands.success {other : List Char} {child : Child} (apart : other ≠ host)
    (stands : Stands relied rollout entries first results other child) :
    Stands relied rollout entries first (results.success host) other child := by
  have same : other ∈ (results.success host).succeeded ↔ other ∈ results.succeeded := by
    simp [Results.success, apart]
  exact ⟨stands.begun, fun succeeded => stands.updated (same.mp succeeded),
    fun notFailed notSucceeded => stands.waiting notFailed (notSucceeded ∘ same.mpr)⟩

theorem Stands.failure {other : List Char} {child : Child} (apart : other ≠ host)
    (stands : Stands relied rollout entries first results other child) :
    Stands relied rollout entries first (results.failure host) other child := by
  have same : other ∈ (results.failure host).failed ↔ other ∈ results.failed := by
    simp [Results.failure, apart]
  exact ⟨fun failed => stands.begun (same.mp failed), stands.updated,
    fun notFailed => stands.waiting (notFailed ∘ same.mpr)⟩

/-- A child that waited is as it was, but for what it does by itself. -/
theorem Intact.of_drifts {was start child : Child} (drifts : Drifts relied was start)
    (intact : Intact relied entries start child) : Intact relied entries was child := by
  intro room whole file watched
  rw [← drifts.home file watched.stable]
  exact intact room whole file watched

/-- The child that is deployed to, and the others. -/
theorem stands_begun (waits : host ∉ results.succeeded)
    (own : Intact relied entries (first host) (now host))
    (others : ∀ other ≠ host, Stands relied rollout entries first results other (now other)) :
    FleetStands relied rollout entries first (results.failure host) now := by
  intro other
  by_cases same : other = host
  · subst same
    have isBegun : other ∈ (results.failure other).failed :=
      List.mem_append_right _ List.mem_cons_self
    exact ⟨fun _ => own, fun succeeded => absurd succeeded waits,
      fun notFailed => absurd isBegun notFailed⟩
  · exact (others other same).failure same

theorem stands_updated (waits : host ∉ results.failed)
    (own : rollout.options.dryRun = false →
      Updated relied rollout.source entries (now host))
    (others : ∀ other ≠ host, Stands relied rollout entries first results other (now other)) :
    FleetStands relied rollout entries first (results.success host) now := by
  intro other
  by_cases same : other = host
  · subst same
    have isUpdated : other ∈ (results.success other).succeeded :=
      List.mem_append_right _ List.mem_cons_self
    exact ⟨fun failed => absurd failed waits, fun _ => own,
      fun _ notSucceeded => absurd isUpdated notSucceeded⟩
  · exact (others other same).success same

/-- What is relied on of the release and of the children. -/
structure Ready (rollout : Rollout) (entries : List (String × Content))
    (first : List Char → Child) : Prop where
  released : rollout.source.release rollout.options.withShared = .ok entries
  fresh : ∀ host file, (first host).backups (rollout.tag host) file = none
  whole : ∀ host, (first host).broken = false

/-- The deployment to one child, among the others. -/
theorem safe_deployTo (ready : Ready rollout entries first)
    (notFailed : host ∉ results.failed) (notSucceeded : host ∉ results.succeeded)
    (stands : FleetStands relied rollout entries first results now) :
    (onFleet relied).Safe (FleetStands relied rollout entries first (results.failure host))
      (fun outcome after => ∃ works, outcome = .ok works ∧
        (works = true → FleetStands relied rollout entries first (results.success host) after))
      (rollout.deployTo host) now := by
  have waited : Drifts relied (first host) (now host) :=
    (stands host).waiting notFailed notSucceeded
  have isFresh (file : String) : (now host).backups (rollout.tag host) file = none := by
    rw [waited.backups]
    exact ready.fresh host file
  have isWhole : (now host).broken = false := waited.broken.trans (ready.whole host)
  have single : (onChild relied).Safe (Intact relied entries (now host))
      (Ends relied rollout.source entries (now host) rollout.options.dryRun)
      (deployChild { rollout.settings with host := String.ofList host, apIp := [] }
        rollout.options rollout.source (rollout.tag host)) (now host) :=
    safe_deployChild ready.released (release_backedUp ready.released) isFresh isWhole
  have aside : Environment.Aside (Stands relied rollout entries first results) host now :=
    fun other _ => stands other
  have among := single.to (fun _ _ _ stands drifts => stands.drifts drifts) aside
  refine Environment.safe_handle.mpr (Environment.safe_bind.mpr (among.mono
    (fun after kept => ?_) fun outcome after kept ends => ?_))
  · exact stands_begun notSucceeded (kept.1.of_drifts waited) kept.2
  · have begun := stands_begun notSucceeded (kept.1.of_drifts waited) kept.2
    cases outcome with
    | error exit => exact ⟨begun, false, rfl, fun works => by cases works⟩
    | ok _ =>
        exact ⟨begun, true, rfl, fun _ =>
          stands_updated notFailed (ends.1.updated rfl) kept.2⟩

/-! ### With `--dry-run` -/

def IsPreview (question : Ask) : Prop := ∃ files, question = .run (.preview files)

theorem asks_deployChild_dry {settings : Settings} {options : Options} {source : Source}
    {tag : String} (dry : options.dryRun = true) :
    (deployChild settings options source tag).Asks IsPreview := by
  rw [deployChild]
  refine (Dialogue.asks_ofExcept _).bind fun release => ?_
  rw [if_pos dry, require]
  refine (Dialogue.asks_request ⟨_, rfl⟩).bind fun works => ?_
  split <;> trivial

theorem asks_deployEach_dry (dry : rollout.options.dryRun = true) (hosts : List (List Char))
    (results : Results) :
    (rollout.deployEach hosts results).Asks fun question => IsPreview question.2 := by
  induction hosts generalizing results with
  | nil => trivial
  | cons host hosts ih =>
      have one : (rollout.deployTo host).Asks fun question => IsPreview question.2 :=
        (((asks_deployChild_dry dry).to host).bind fun _ => Dialogue.asks_pure _).handle
          fun _ => Dialogue.asks_pure _
      refine one.bind fun works => ?_
      split
      · exact ih _
      · split
        · exact ih _
        · trivial

/-- A preview does nothing to any child. -/
theorem drifts_of_preview {before after : List Char → Child} {question : List Char × Ask}
    {reply : Reply question.2} (preview : IsPreview question.2)
    (answered : (onFleet relied).answers before question reply after) (host : List Char) :
    Drifts relied (before host) (after host) := by
  obtain ⟨asked, question⟩ := question
  obtain ⟨files, rfl⟩ := preview
  by_cases same : host = asked
  · subst same
    exact answered.1
  · exact answered.2 host same

/-- With `--dry-run` the children only do what they do by themselves. -/
theorem safe_deployEach_dry (dry : rollout.options.dryRun = true) (hosts : List (List Char)) :
    (onFleet relied).Safe (fun now => ∀ host, Drifts relied (first host) (now host))
      (fun _ now => ∀ host, Drifts relied (first host) (now host))
      (rollout.deployEach hosts {}) first :=
  Environment.safe_of_asks (asks_deployEach_dry dry hosts {})
    (fun _ _ _ _ preview kept answered host =>
      (kept host).trans (drifts_of_preview preview answered host))
    fun _ => Drifts.refl _

/-! ### The rollout -/

/-- How the loop ends. -/
structure Finished (relied : Relied) (rollout : Rollout) (entries : List (String × Content))
    (first : List Char → Child) (results final : Results) (hosts : List (List Char))
    (now : List Char → Child) : Prop where
  stands : FleetStands relied rollout entries first final now
  contained : Contained rollout final
  failed : results.failed ⊆ final.failed
  succeeded : results.succeeded ⊆ final.succeeded
  all : final.failed = [] → ∀ host ∈ hosts, host ∈ final.succeeded

theorem safe_deployEach (ready : Ready rollout entries first) {hosts : List (List Char)}
    (nodup : hosts.Nodup)
    (waiting : ∀ host ∈ hosts, host ∉ results.failed ∧ host ∉ results.succeeded)
    (none_ : rollout.keepGoing = false → results.failed = [])
    (stands : FleetStands relied rollout entries first results now) :
    (onFleet relied).Safe (FleetIntact relied rollout entries first)
      (fun outcome after => ∃ final, outcome = .ok final ∧
        Finished relied rollout entries first results final hosts after)
      (rollout.deployEach hosts results) now := by
  induction hosts generalizing results now with
  | nil =>
      have contained : Contained rollout results := fun stops => by simp [none_ stops]
      exact ⟨⟨results, contained, stands⟩, results, rfl, stands, contained, fun _ => id,
        fun _ => id, fun _ host among => absurd among List.not_mem_nil⟩
  | cons host hosts ih =>
      obtain ⟨notAgain, nodup⟩ := List.nodup_cons.mp nodup
      obtain ⟨⟨notFailed, notSucceeded⟩, later⟩ := List.forall_mem_cons.mp waiting
      have contained : Contained rollout (results.failure host) := fun stops => by
        simp [Results.failure, none_ stops]
      have differs (other : List Char) (among : other ∈ hosts) : other ≠ host :=
        fun same => notAgain (same ▸ among)
      refine Environment.safe_bind.mpr ((safe_deployTo ready notFailed notSucceeded stands).mono
        (fun after kept => ⟨_, contained, kept⟩) fun outcome after kept told => ?_)
      obtain ⟨works, isOk, updated⟩ := told
      subst isOk
      dsimp only [Environment.Then]
      split
      next isWorking =>
        have apart : ∀ other ∈ hosts, other ∉ (results.success host).failed ∧
            other ∉ (results.success host).succeeded := fun other among =>
          ⟨(later other among).1, by simp [Results.success, (later other among).2,
            differs other among]⟩
        refine (ih nodup apart none_ (updated isWorking)).mono (fun _ kept => kept)
          fun outcome last _ told => ?_
        obtain ⟨final, isOk, done⟩ := told
        have isIn : host ∈ final.succeeded :=
          done.succeeded (List.mem_append_right _ List.mem_cons_self)
        exact ⟨final, isOk, done.stands, done.contained, done.failed,
          fun other among => done.succeeded (List.mem_append_left _ among),
          fun noFailure => List.forall_mem_cons.mpr ⟨isIn, done.all noFailure⟩⟩
      next =>
        have isBegun : host ∈ (results.failure host).failed :=
          List.mem_append_right _ List.mem_cons_self
        split
        next goesOn =>
          have apart : ∀ other ∈ hosts, other ∉ (results.failure host).failed ∧
              other ∉ (results.failure host).succeeded := fun other among =>
            ⟨by simp [Results.failure, (later other among).1, differs other among],
              (later other among).2⟩
          have keeps : rollout.keepGoing = false → (results.failure host).failed = [] :=
            fun stops => by simp [goesOn] at stops
          refine (ih nodup apart keeps kept).mono (fun _ kept => kept)
            fun outcome last _ told => ?_
          obtain ⟨final, isOk, done⟩ := told
          refine ⟨final, isOk, done.stands, done.contained, ?_, done.succeeded, ?_⟩
          · exact fun other among => done.failed (List.mem_append_left _ among)
          · intro noFailure
            have among := done.failed isBegun
            rw [noFailure] at among
            exact absurd among List.not_mem_nil
        next =>
          refine ⟨⟨_, contained, kept⟩, _, rfl, kept, contained, ?_, fun _ => id, ?_⟩
          · exact fun other among => List.mem_append_left _ among
          · intro noFailure
            rw [noFailure] at isBegun
            exact absurd isBegun List.not_mem_nil

end Rollouts

/-! ### A release that does not start -/

def zero2 : List Char := "zero2".toList

def siteInventory : List Char := "# children\nzero2\nzero2b  # line 2\n".toList

def siteRollout : Rollout where
  settings := pizero
  options := {}
  source := hubSource
  keepGoing := false
  tag _ := "20260601-090000"

def newFiles : List (String × Content) := codeFiles.map fun file => (file, newFile)

def eachNotStarting (fleet : List Char → Child) :
    (question : List Char × Ask) → Reply question.2 × (List Char → Child)
  | (host, question) =>
      ((notStarting (fleet host) question).1,
        fun other => if other = host then (notStarting (fleet host) question).2 else fleet other)

theorem onFleet_eachNotStarting (fleet : List Char → Child) (question : List Char × Ask) :
    (onFleet everyFile).answers fleet question (eachNotStarting fleet question).1
      (eachNotStarting fleet question).2 := by
  obtain ⟨host, question⟩ := question
  refine ⟨?_, fun other apart => ?_⟩
  · dsimp only [eachNotStarting]
    rw [if_pos rfl]
    exact onChild_notStarting (fleet host) question
  · dsimp only [eachNotStarting]
    rw [if_neg apart]
    exact Drifts.refl _

def stoppedRun : (List Char → Child) × FleetScript Results :=
  Environment.play eachNotStarting 60
    (fun _ => beforeDeploying, siteRollout.deployFleet [zero2, "zero2b".toList])

end PresenceLogger.Fleet.Deploy
