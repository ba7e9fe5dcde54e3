import PresenceLogger.Fleet.DeployChild

/-!
# How a deployment ends

Wherever a deployment is cut off, every file is the old one or the new one; where it says that
it succeeded the services run the new files, and where it says that it was rolled back the old
files are there.
-/

namespace PresenceLogger.Fleet.Deploy

open Library

/-! ## The names of a release -/

section Names

variable {source : Source} {entries : List (String × Content)}

theorem names_read {files : List String} (isRead : source.read files = .ok entries) :
    entries.map Prod.fst = files := by
  induction files generalizing entries with
  | nil =>
      cases isRead
      rfl
  | cons file files ih =>
      rw [Source.read] at isRead
      cases there : source.app file with
      | none => simp [there] at isRead
      | some content =>
          rw [there] at isRead
          cases others : source.read files with
          | error exit => simp [others] at isRead
          | ok rest =>
              rw [others] at isRead
              cases isRead
              rw [List.map_cons, ih others]

theorem names_render {gw : List Char} {rendered : List (String × Content)}
    (isRendered : source.render gw entries = .ok rendered) :
    rendered.map Prod.fst = entries.map Prod.fst := by
  induction entries generalizing rendered with
  | nil =>
      cases isRendered
      rfl
  | cons entry entries ih =>
      obtain ⟨file, content⟩ := entry
      rw [Source.render] at isRendered
      cases others : source.render gw entries with
      | error exit =>
          rw [others] at isRendered
          split at isRendered
          · split at isRendered <;> cases isRendered
          · cases isRendered
      | ok rest =>
          rw [others] at isRendered
          split at isRendered
          · split at isRendered
            · cases isRendered
            · cases isRendered
              rw [List.map_cons, List.map_cons, ih others]
          · cases isRendered
            rw [List.map_cons, List.map_cons, ih others]

/-- A release has the files that are deployed, and no others. -/
theorem names_release {withShared : Bool} (released : source.release withShared = .ok entries) :
    entries.map Prod.fst = releasedFiles withShared := by
  rw [Source.release] at released
  cases isRead : source.read (releasedFiles withShared) with
  | error exit =>
      rw [isRead] at released
      cases released
  | ok plain =>
      rw [isRead] at released
      cases withShared with
      | false =>
          cases released
          exact names_read isRead
      | true =>
          cases hasGateway : source.gateway with
          | none =>
              rw [hasGateway] at released
              cases released
          | some gw =>
              rw [hasGateway] at released
              exact (names_render released).trans (names_read isRead)

theorem releasedFiles_backedUp (withShared : Bool) :
    ∀ file ∈ releasedFiles withShared, file ∈ backedUpFiles := by
  intro file among
  cases withShared with
  | false => exact List.mem_append_left _ among
  | true =>
      rw [backedUpFiles, ← List.append_assoc]
      exact List.mem_append_left _ among

theorem deviceOwned_notReleased (withShared : Bool) :
    ∀ file ∈ deviceOwnedFiles, file ∉ releasedFiles withShared := by
  cases withShared <;> decide

theorem release_backedUp {withShared : Bool} (released : source.release withShared = .ok entries) :
    ∀ entry ∈ entries, entry.1 ∈ backedUpFiles := by
  intro entry among
  refine releasedFiles_backedUp withShared entry.1 ?_
  rw [← names_release released]
  exact List.mem_map_of_mem among

theorem notReleased_of_deviceOwned {withShared : Bool} {file : String}
    (released : source.release withShared = .ok entries) (owned : file ∈ deviceOwnedFiles)
    (content : Content) : (file, content) ∉ entries := by
  intro among
  refine deviceOwned_notReleased withShared file owned ?_
  rw [← names_release released]
  exact List.mem_map_of_mem among

end Names

/-! ## The deployment -/

section Deployment

variable {relied : Relied} {source : Source} {tag : String} {entries : List (String × Content)}
  {first now after : Child} {settings : Settings} {options : Options} {ip : List Char}

/-- What the ending of a deployment says. -/
structure Ends (relied : Relied) (source : Source) (entries : List (String × Content))
    (first : Child) (dryRun : Bool) (outcome : Except Exit Unit) (now : Child) : Prop where
  updated : outcome = .ok () → dryRun = false → Updated relied source entries now
  restored : outcome = .error .rolledBack → Restored relied entries first now

theorem ends_error {dryRun : Bool} {exit : Exit} (apart : exit ≠ .rolledBack) :
    Ends relied source entries first dryRun (.error exit) now :=
  ⟨fun ok => (by cases ok), fun same => absurd (Except.error.inj same) apart⟩

theorem restored_of_restore (names : ∀ entry ∈ entries, entry.1 ∈ backedUpFiles)
    (start : Distributed relied tag entries first now)
    (does : Does relied now (.run (.restore tag)) true after) :
    Restored relied entries first after := by
  obtain ⟨home, running, isDone⟩ := does
  rw [if_pos rfl] at isDone
  obtain ⟨writes, drifts⟩ := isDone
  have back (file : String) (watched : Watched relied file) :
      after.home file = (now.backups tag file).or (now.home file) :=
    (drifts.home file watched.stable).trans (writes file watched.notTag)
  constructor
  · intro room _ file watched
    rw [back file watched]
    cases start.backedUp.old room file watched with
    | inl none_ =>
        rw [none_, Option.none_or]
        exact start.oldOrNew file watched
    | inr old =>
        rw [old]
        cases wasThere : first.home file with
        | none =>
            rw [Option.none_or, ← wasThere]
            exact start.oldOrNew file watched
        | some content => exact .inl rfl
  · intro room file watched present
    rw [back file watched]
    obtain ⟨content, wasThere⟩ := Option.ne_none_iff_exists'.mp present
    by_cases among : file ∈ backedUpFiles
    · rw [start.backedUp.whole room file among watched present, wasThere, Option.some_or]
    · cases start.backedUp.old room file watched with
      | inl none_ =>
          rw [none_, Option.none_or]
          cases start.oldOrNew file watched with
          | inl old => exact old
          | inr new =>
              obtain ⟨content, inRelease, -⟩ := new
              exact absurd (names _ inRelease) among
      | inr old => rw [old, wasThere, Option.some_or]

theorem safe_rollBack (names : ∀ entry ∈ entries, entry.1 ∈ backedUpFiles)
    (start : Distributed relied tag entries first now) :
    (onChild relied).Safe (Intact relied entries first) (fun outcome after =>
      outcome = .error .restoreFailed ∨
        ∃ exit, outcome = .ok exit ∧ Restored relied entries first after)
      (rollBack settings ip tag) now := by
  refine Environment.safe_bind.mpr (safe_require start.intact (fun after does => ?_)
    fun after does => ?_)
  · have restored := restored_of_restore names start does
    refine ⟨restored.intact, ?_⟩
    refine Environment.Safe.mono (safe_steady (fun _ _ settled kept => kept.settled settled) ?_
      restored) (fun _ kept => kept.intact) fun outcome last _ told => .inr ?_
    · refine (checks_restoreUnits tag childUnits).bind fun _ =>
        ((checks_childRestartUnits childUnits).mono fun _ => Quiet.steady).bind fun _ =>
          ((checks_childHealthcheck settings ip childUnits).mono fun _ => Quiet.steady).bind
            fun healthy => ?_
      split
      · refine ((checks_childModelReady settings ip).mono fun _ => Quiet.steady).bind
          fun ready => ?_
        split <;> trivial
      · trivial
    · obtain ⟨kept, exit, isOk⟩ := told
      exact ⟨exit, isOk, kept⟩
  · obtain ⟨home, running, cut⟩ := does
    have broken : after.broken = true := cut.broken
    refine ⟨fun _ whole => ?_, .inl rfl⟩
    rw [broken] at whole
    cases whole

theorem distributed_of_rsync (start : Prepared relied tag first now)
    (does : Does relied now (.run (.rsync entries)) true after) :
    Distributed relied tag entries first after := by
  obtain ⟨home, running, replaces, drifts⟩ := does
  have settled : after.backups = now.backups := drifts.backups
  constructor
  · exact drifts.broken.trans start.whole
  · intro file watched
    rw [drifts.home file watched.stable, ← start.same file watched.stable]
    exact replaces.each file
  · constructor
    · intro room file watched
      rw [settled]
      exact start.backedUp.old room file watched
    · intro room file among watched present
      rw [settled]
      exact start.backedUp.whole room file among watched present
  · intro entry among isStable
    exact (drifts.home entry.1 isStable).trans (replaces.all rfl entry among)

theorem intact_of_rsync {done : Bool} (start : Prepared relied tag first now)
    (does : Does relied now (.run (.rsync entries)) done after) :
    Intact relied entries first after := by
  obtain ⟨home, running, replaces, drifts⟩ := does
  intro _ _ file watched
  rw [drifts.home file watched.stable, ← start.same file watched.stable]
  exact replaces.each file

theorem intact_of_prune {done : Bool} (start : Intact relied entries first now)
    (does : Does relied now (.run .prune) done after) : Intact relied entries first after := by
  obtain ⟨backups, drifts⟩ := does
  intro room whole file watched
  rw [drifts.home file watched.stable]
  exact start room (drifts.broken.symm.trans whole) file watched

theorem safe_distribute (names : ∀ entry ∈ entries, entry.1 ∈ backedUpFiles)
    (start : Prepared relied tag first now) :
    (onChild relied).Safe (Intact relied entries first) (Ends relied source entries first false)
      (distribute settings options source tag ip entries) now := by
  refine Environment.safe_bind.mpr (safe_require start.intact (fun after does => ?_)
    fun after does => ⟨intact_of_rsync start does, ends_error (by simp)⟩)
  have distributed := distributed_of_rsync start does
  refine ⟨distributed.intact, Environment.safe_bind.mpr ?_⟩
  refine (safe_installUnits (fun _ _ settled kept => Distributed.settled kept settled)
    (by decide) [] (by simp) (by simp) distributed).mono (fun _ kept => kept.intact)
      fun outcome after kept told => ?_
  rcases told with stopped | ⟨isOk, installed⟩
  · subst stopped
    exact ends_error (by simp)
  subst isOk
  have closed : ∀ before after, Drifts relied before after →
      (Distributed relied tag entries first before ∧
        ∀ unit ∈ childUnits, Installed source before unit) →
      Distributed relied tag entries first after ∧
        ∀ unit ∈ childUnits, Installed source after unit :=
    fun before after drifts both => ⟨both.1.settled drifts.settled,
      fun unit among content isUnit => by
        rw [drifts.units]
        exact both.2 unit among content isUnit⟩
  refine Environment.safe_bind.mpr ((safe_comesUp closed (fun _ both => both.1.carries)
    ⟨kept, fun unit among => installed unit (.inr among)⟩).mono (fun _ both => both.1.intact)
      fun outcome last _ shown => ?_)
  obtain ⟨⟨now_, units⟩, works, isOk, fresh⟩ := shown
  subst isOk
  cases works with
  | true =>
      have updated : Updated relied source entries last := ⟨now_.carries, units, fresh rfl⟩
      refine Environment.safe_bind.mpr (safe_run.mpr ⟨now_.intact, fun done pruned does => ?_⟩)
      have intact : Intact relied entries first pruned := intact_of_prune now_.intact does
      obtain ⟨backups, drifts⟩ := does
      have still : Updated relied source entries { last with backups } :=
        ⟨updated.files, updated.units, updated.running⟩
      exact ⟨intact, intact, fun _ _ => still.drifts drifts, fun ends => by cases ends⟩
  | false =>
      dsimp only [Environment.Then]
      rw [if_neg Bool.false_ne_true]
      split
      · refine Environment.safe_bind.mpr ((safe_rollBack names now_).mono (fun _ kept => kept)
          fun outcome ended intact told => ?_)
        rcases told with failed | ⟨exit, isOk, restored⟩
        · subst failed
          exact ends_error (by simp)
        · subst isOk
          exact ⟨intact, fun ok => (by cases ok), fun _ => restored⟩
      · exact ⟨now_.intact, ends_error (by simp)⟩

theorem backedUp_of_backup (fresh : ∀ file, now.backups tag file = none)
    (same : SameFiles relied first.home now.home)
    (does : Does relied now (.run (.backup tag backedUpFiles)) true after) :
    BackedUp relied tag first after := by
  obtain ⟨backups, copies, drifts⟩ := does
  have kept : after.backups = backups := drifts.backups
  have whole (room : relied.room) (file : String) (among : file ∈ backedUpFiles)
      (watched : Watched relied file) (present : first.home file ≠ none) :
      backups tag file = first.home file := by
    rw [← same file watched.stable] at present ⊢
    exact copies.whole room rfl file among watched.stable present
  constructor
  · intro room file watched
    rw [kept]
    by_cases among : file ∈ backedUpFiles
    · by_cases present : first.home file = none
      · refine .inl ((copies.absent file among watched.stable ?_).trans (fresh file))
        exact (same file watched.stable).trans present
      · exact .inr (whole room file among watched present)
    · exact .inl ((copies.apart file among watched.notTag).trans (fresh file))
  · intro room file among watched present
    rw [kept]
    exact whole room file among watched present

theorem prepared_of_backupUnits {done : Bool} (start : Prepared relied tag first now)
    (does : Does relied now (.run (.backupUnits tag childUnits)) done after) :
    Prepared relied tag first after := by
  obtain ⟨backups, -, apart, drifts⟩ := does
  have same (file : String) (watched : Watched relied file) :
      after.backups tag file = now.backups tag file := by
    rw [drifts.backups]
    exact apart file watched.notUnit
  refine ⟨start.same.trans drifts.home, drifts.broken.trans start.whole, ?_, ?_⟩
  · intro room file watched
    rw [same file watched]
    exact start.backedUp.old room file watched
  · intro room file among watched present
    rw [same file watched]
    exact start.backedUp.whole room file among watched present

theorem safe_deployChild (released : source.release options.withShared = .ok entries)
    (names : ∀ entry ∈ entries, entry.1 ∈ backedUpFiles)
    (fresh : ∀ file, first.backups tag file = none) (whole : first.broken = false) :
    (onChild relied).Safe (Intact relied entries first)
      (Ends relied source entries first options.dryRun)
      (deployChild settings options source tag) first := by
  have unchanged (child : Child) (settled : Settled relied first child) :
      Intact relied entries first child :=
    fun _ _ file watched => .inl (settled.home file watched.stable)
  have closed : ∀ before after, Drifts relied before after → Settled relied first before →
      Settled relied first after := fun before after drifts settled =>
    ⟨settled.home.trans drifts.home, drifts.backups.trans settled.backups,
      drifts.broken.trans settled.broken⟩
  have begins : Settled relied first first := ⟨.refl _, rfl, rfl⟩
  rw [deployChild, released]
  refine Environment.safe_bind.mpr ⟨unchanged first begins, ?_⟩
  dsimp only [Environment.Then]
  split
  next isDry =>
    refine safe_require (unchanged first begins) (fun after does => ?_) fun after does => ?_
    · have intact := unchanged after (closed _ _ does begins)
      exact ⟨intact, fun _ notDry => absurd (isDry.symm.trans notDry) (by decide),
        fun ends => by cases ends⟩
    · exact ⟨unchanged after (closed _ _ does begins), ends_error (by simp)⟩
  next notDry =>
    rw [Bool.not_eq_true] at notDry
    rw [notDry]
    have reached : (onChild relied).Safe (Settled relied first)
        (fun outcome _ => ∀ exit, outcome = .error exit → exit ≠ .rolledBack)
        (requireChildReachable settings) first :=
      Environment.safe_of_within (within_requireChildReachable settings)
        (fun before _ _ after quiet kept does =>
          closed before after (drifts_of_quiet quiet does) kept) begins
    refine Environment.safe_bind.mpr (reached.mono unchanged fun outcome now settled told => ?_)
    cases outcome with
    | error exit => exact ends_error (told exit rfl)
    | ok ip =>
        refine Environment.safe_bind.mpr (safe_require (unchanged now settled)
          (fun backedUp does => ?_) fun after does => ?_)
        · have isFresh (file : String) : now.backups tag file = none := by
            rw [settled.backups]
            exact fresh file
          have backup := backedUp_of_backup isFresh settled.home does
          obtain ⟨backups, -, drifts⟩ := does
          have prepared : Prepared relied tag first backedUp :=
            ⟨settled.home.trans drifts.home, (drifts.broken.trans settled.broken).trans whole,
              backup⟩
          refine ⟨prepared.intact, Environment.safe_bind.mpr (safe_run.mpr
            ⟨prepared.intact, fun done after does => ?_⟩)⟩
          have still := prepared_of_backupUnits prepared does
          exact ⟨still.intact, safe_distribute names still⟩
        · obtain ⟨backups, -, drifts⟩ := does
          exact ⟨fun _ _ file watched => .inl ((drifts.home file watched.stable).trans
            (settled.home file watched.stable)), ends_error (by simp)⟩

end Deployment

/-! ### A release that does not start -/

def oldFile : Content := "old".toList

def newFile : Content := "new".toList

def everyFile : Relied where
  stable _ := True
  room := True

def hubSource : Source where
  app _ := some newFile
  units _ := none
  gateway := none
  renderHost _ _ := none

def pizero : Settings where
  host := "zero2"
  readyWait := 2

def beforeDeploying : Child where
  home _ := some oldFile
  units _ := none
  incoming _ := none
  backups _ _ := none
  running _ := none
  broken := false

/-- Every command works but the start of a service. -/
def notStarting (child : Child) : (question : Ask) → Reply question × Child
  | .run (.backup tag files) =>
      (true, { child with
        backups := fun other file =>
          if other = tag ∧ file ∈ files then (child.home file).or (child.backups other file)
          else child.backups other file })
  | .run (.rsync entries) =>
      if ∀ entry ∈ entries, entry.2 = newFile then
        (true, { child with
          home := fun file =>
            if file ∈ entries.map Prod.fst then some newFile else child.home file })
      else (false, child)
  | .run (.restore tag) =>
      (true, { child with home := fun file => (child.backups tag file).or (child.home file) })
  | .run (.upload _ _) | .run (.install _) | .run (.installBackup _ _) | .run (.restart _) =>
      (false, child)
  | .run _ => (true, child)
  | .addresses => (['1', '0', '.', '4', '2', '.', '0', '.', '9'], child)
  | .freeMb => (some 5000, child)
  | .get _ _ => ((true, "\x7b\"status\": \"ready\"\x7d".toList), child)

theorem onChild_notStarting (child : Child) (question : Ask) :
    (onChild everyFile).answers child question (notStarting child question).1
      (notStarting child question).2 := by
  cases question with
  | run command =>
      cases command with
      | backup tag files =>
          refine ⟨_, ⟨fun other apart => ?_, fun file among _ => ?_, fun file among _ none_ => ?_,
            fun _ _ file among _ present => ?_⟩, .refl _⟩
          · funext file
            exact if_neg fun both => apart both.1
          · exact if_neg fun both => among both.2
          · rw [if_pos ⟨rfl, among⟩, none_, Option.none_or]
          · obtain ⟨content, isThere⟩ := Option.ne_none_iff_exists'.mp present
            rw [if_pos ⟨rfl, among⟩, isThere, Option.some_or]
      | rsync entries =>
          by_cases areNew : ∀ entry ∈ entries, entry.2 = newFile
          · rw [notStarting, if_pos areNew]
            refine ⟨_, child.running, ⟨fun file => ?_, fun _ entry among => ?_⟩, .refl _⟩
            · by_cases isSent : file ∈ entries.map Prod.fst
              · obtain ⟨entry, among, isName⟩ := List.mem_map.mp isSent
                refine .inr ⟨newFile, ?_, if_pos isSent⟩
                rw [← isName, ← areNew entry among]
                exact among
              · exact .inl (if_neg isSent)
            · rw [if_pos (List.mem_map_of_mem among), areNew entry among]
          · rw [notStarting, if_neg areNew]
            exact ⟨child.home, child.running, ⟨fun _ => .inl rfl, fun works => by cases works⟩,
              .refl _⟩
      | restore tag => exact ⟨_, child.running, fun _ _ => rfl, .refl _⟩
      | backupUnits tag units =>
          exact ⟨child.backups, fun _ _ => rfl, fun _ _ => rfl, .refl _⟩
      | upload | install | installBackup =>
          exact ⟨_, ⟨fun _ _ => rfl, fun works => by cases works⟩, .refl _⟩
      | prune => exact ⟨child.backups, .refl _⟩
      | restart unit => exact ⟨.refl _, fun works => by cases works⟩
      | reach | preview | daemonReload | enable | isActive | sleep | hasUnit =>
          exact Drifts.refl child
  | addresses => exact Drifts.refl child
  | freeMb => exact Drifts.refl child
  | get ip path => exact Drifts.refl child

def notStartingRun : Child × Script Unit :=
  Environment.play notStarting 40
    (beforeDeploying, deployChild pizero {} hubSource "20260601-090000")

end PresenceLogger.Fleet.Deploy
