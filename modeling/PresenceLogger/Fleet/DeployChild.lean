import PresenceLogger.Fleet.Deploy

/-!
# What a deployment does to a child

The child of a deployment has its files, the units that systemd knows, the backups, and for
each service the files it was started from.  A command that fails may have done a part of its
work, and between two commands the child goes on: its services write files of their own, stop,
and are started anew from the files that are there.
-/

namespace PresenceLogger.Fleet.Deploy

open Library

structure Child where
  home : String → Option Content
  /-- `/etc/systemd/system` -/
  units : String → Option Content
  /-- The units in `/tmp`. -/
  incoming : String → Option Content
  backups : String → String → Option Content
  /-- The files a service that runs was started from. -/
  running : String → Option (String → Option Content)
  /-- A restore has been cut short. -/
  broken : Bool

/-- What is relied on. -/
structure Relied where
  /-- Nobody but the deployment writes the file. -/
  stable : String → Prop
  /-- There is room for the copies of the backup. -/
  room : Prop

section Child

variable (relied : Relied)

def SameFiles (before after : String → Option Content) : Prop :=
  ∀ file, relied.stable file → after file = before file

/-- What a child does by itself. -/
structure Drifts (before after : Child) : Prop where
  home : SameFiles relied before.home after.home
  units : after.units = before.units
  incoming : after.incoming = before.incoming
  backups : after.backups = before.backups
  running : ∀ unit files, after.running unit = some files →
    before.running unit = some files ∨ SameFiles relied before.home files
  broken : after.broken = before.broken

/-- Some of the files are in the backup. -/
structure Copies (before : Child) (tag : String) (files : List String) (done : Bool)
    (backups : String → String → Option Content) : Prop where
  others : ∀ other ≠ tag, backups other = before.backups other
  apart : ∀ file ∉ files, file ≠ ".tag" → backups tag file = before.backups tag file
  absent : ∀ file ∈ files, relied.stable file → before.home file = none →
    backups tag file = before.backups tag file
  whole : relied.room → done = true → ∀ file ∈ files, relied.stable file →
    before.home file ≠ none → backups tag file = before.home file

/-- Some of the new files have replaced the old ones. -/
structure Replaces (before : Child) (entries : List (String × Content)) (done : Bool)
    (home : String → Option Content) : Prop where
  each : ∀ file, home file = before.home file ∨
    ∃ content, (file, content) ∈ entries ∧ home file = some content
  all : done = true → ∀ entry ∈ entries, home entry.1 = some entry.2

/-- Another value for one name, known when the command succeeded. -/
structure Sets (before after : String → Option Content) (name : String) (done : Bool)
    (value : Option Content) : Prop where
  others : ∀ other ≠ name, after other = before other
  own : done = true → after name = value

/-- How a child answers. -/
def Does (before : Child) : (question : Ask) → Reply question → Child → Prop
  | .run (.backup tag files), done, after =>
      ∃ backups, Copies relied before tag files done backups ∧
        Drifts relied { before with backups } after
  | .run (.backupUnits tag units), _, after =>
      ∃ backups, (∀ other ≠ tag, backups other = before.backups other) ∧
        (∀ file, (∀ unit ∈ units, file ≠ unitFile unit) →
          backups tag file = before.backups tag file) ∧
        Drifts relied { before with backups } after
  | .run (.rsync entries), done, after =>
      ∃ home running, Replaces before entries done home ∧
        Drifts relied { before with home, running } after
  | .run (.upload unit content), done, after =>
      ∃ incoming, Sets before.incoming incoming unit done (some content) ∧
        Drifts relied { before with incoming } after
  | .run (.install unit), done, after =>
      ∃ units, Sets before.units units unit done (before.incoming unit) ∧
        Drifts relied { before with units } after
  | .run (.installBackup tag unit), done, after =>
      ∃ units, Sets before.units units unit done (before.backups tag (unitFile unit)) ∧
        Drifts relied { before with units } after
  | .run (.restart unit), done, after =>
      Drifts relied before after ∧ (done = true → ∀ files, after.running unit = some files →
        SameFiles relied before.home files)
  | .run .prune, _, after => ∃ backups, Drifts relied { before with backups } after
  | .run (.restore tag), done, after =>
      ∃ home running, if done then
          (∀ file ≠ ".tag", home file = (before.backups tag file).or (before.home file)) ∧
            Drifts relied { before with home, running } after
        else Drifts relied { before with home, running, broken := true } after
  | _, _, after => Drifts relied before after

def onChild : Environment Ask Reply Child where
  answers := Does relied

end Child

section Drift

variable {relied : Relied} {before after : Child}

theorem SameFiles.refl (files : String → Option Content) : SameFiles relied files files :=
  fun _ _ => rfl

theorem SameFiles.trans {first second third : String → Option Content}
    (left : SameFiles relied first second) (right : SameFiles relied second third) :
    SameFiles relied first third :=
  fun file isStable => (right file isStable).trans (left file isStable)

theorem Drifts.refl (child : Child) : Drifts relied child child :=
  ⟨.refl _, rfl, rfl, rfl, fun _ _ => .inl, rfl⟩

theorem Drifts.trans {last : Child} (first : Drifts relied before after)
    (then_ : Drifts relied after last) : Drifts relied before last where
  home := first.home.trans then_.home
  units := then_.units.trans first.units
  incoming := then_.incoming.trans first.incoming
  backups := then_.backups.trans first.backups
  running unit files isRunning := by
    cases then_.running unit files isRunning with
    | inl was => exact first.running unit files was
    | inr fresh => exact .inr (first.home.trans fresh)
  broken := then_.broken.trans first.broken

/-- The commands that change nothing by themselves, but for what they start. -/
def Quiet : Ask → Prop
  | .run (.backup _ _) | .run (.backupUnits _ _) | .run (.rsync _) | .run (.upload _ _)
  | .run (.install _) | .run (.installBackup _ _) | .run .prune | .run (.restore _) => False
  | _ => True

theorem drifts_of_quiet {question : Ask} {reply : Reply question} (quiet : Quiet question)
    (does : Does relied before question reply after) : Drifts relied before after := by
  cases question with
  | run command =>
      cases command with
      | restart unit => exact does.1
      | backup | backupUnits | rsync | upload | install | installBackup | prune | restore =>
          exact quiet.elim
      | reach | preview | daemonReload | enable | isActive | sleep | hasUnit => exact does
  | addresses => exact does
  | freeMb => exact does
  | get ip path => exact does

/-- The files of the child and its backups are as before. -/
structure Settled (relied : Relied) (before after : Child) : Prop where
  home : SameFiles relied before.home after.home
  backups : after.backups = before.backups
  broken : after.broken = before.broken

theorem Drifts.settled (drifts : Drifts relied before after) : Settled relied before after :=
  ⟨drifts.home, drifts.backups, drifts.broken⟩

/-- The commands that leave the files and the backups alone. -/
def Steady : Ask → Prop
  | .run (.backup _ _) | .run (.backupUnits _ _) | .run (.rsync _) | .run .prune
  | .run (.restore _) => False
  | _ => True

theorem settled_of_steady {question : Ask} {reply : Reply question} (steady : Steady question)
    (does : Does relied before question reply after) : Settled relied before after := by
  cases question with
  | run command =>
      cases command with
      | restart unit => exact does.1.settled
      | upload | install | installBackup =>
          obtain ⟨_, _, drifts⟩ := does
          exact ⟨drifts.home, drifts.backups, drifts.broken⟩
      | backup | backupUnits | rsync | prune | restore => exact steady.elim
      | reach | preview | daemonReload | enable | isActive | sleep | hasUnit =>
          exact Drifts.settled does
  | addresses => exact Drifts.settled does
  | freeMb => exact Drifts.settled does
  | get ip path => exact Drifts.settled does

theorem Quiet.steady {question : Ask} (quiet : Quiet question) : Steady question := by
  cases question with
  | run command => cases command <;> first | exact quiet | trivial
  | addresses => trivial
  | freeMb => trivial
  | get ip path => trivial

end Drift

/-! ## Facts of a deployment -/

section Facts

variable (relied : Relied) (source : Source) (tag : String) (entries : List (String × Content))
  (first now : Child)

/-- A file that the deployment can be held to. -/
structure Watched (file : String) : Prop where
  stable : relied.stable file
  notTag : file ≠ ".tag"
  notUnit : ∀ unit ∈ childUnits, file ≠ unitFile unit

/-- Every file is as it was, or as in the release. -/
def OldOrNew : Prop :=
  ∀ file, Watched relied file → now.home file = first.home file ∨
    ∃ content, (file, content) ∈ entries ∧ now.home file = some content

/-- What holds wherever a deployment stops. -/
def Intact : Prop := relied.room → now.broken = false → OldOrNew relied entries first now

/-- The backup is one of the files as they were. -/
structure BackedUp : Prop where
  old : relied.room → ∀ file, Watched relied file →
    now.backups tag file = none ∨ now.backups tag file = first.home file
  whole : relied.room → ∀ file ∈ backedUpFiles, Watched relied file →
    first.home file ≠ none → now.backups tag file = first.home file

/-- Files that are those of the release. -/
def Carries (files : String → Option Content) : Prop :=
  ∀ entry ∈ entries, relied.stable entry.1 → files entry.1 = some entry.2

/-- Before the distribution. -/
structure Prepared : Prop where
  same : SameFiles relied first.home now.home
  whole : now.broken = false
  backedUp : BackedUp relied tag first now

/-- After the distribution. -/
structure Distributed : Prop where
  whole : now.broken = false
  oldOrNew : OldOrNew relied entries first now
  backedUp : BackedUp relied tag first now
  carries : Carries relied entries now.home

/-- After the restore. -/
structure Restored : Prop where
  intact : Intact relied entries first now
  old : relied.room → ∀ file, Watched relied file → first.home file ≠ none →
    now.home file = first.home file

def Installed (unit : String) : Prop :=
  ∀ content, source.units unit = some content → now.units unit = some content

/-- A service that runs was started from files of the release. -/
def Fresh (unit : String) : Prop :=
  ∀ files, now.running unit = some files → Carries relied entries files

/-- The child has the release, and runs nothing else. -/
structure Updated : Prop where
  files : Carries relied entries now.home
  units : ∀ unit ∈ childUnits, Installed source now unit
  running : ∀ unit ∈ childUnits, Fresh relied entries now unit

end Facts

section Closed

variable {relied : Relied} {source : Source} {tag : String} {entries : List (String × Content)}
  {first before after : Child}

theorem Carries.same {files others : String → Option Content}
    (carries : Carries relied entries files) (same : SameFiles relied files others) :
    Carries relied entries others := fun entry among isStable =>
  (same entry.1 isStable).trans (carries entry among isStable)

theorem OldOrNew.settled (kept : OldOrNew relied entries first before)
    (settled : Settled relied before after) : OldOrNew relied entries first after := by
  intro file watched
  rw [settled.home file watched.stable]
  exact kept file watched

theorem BackedUp.settled (kept : BackedUp relied tag first before)
    (settled : Settled relied before after) : BackedUp relied tag first after := by
  constructor
  · intro room file watched
    rw [settled.backups]
    exact kept.old room file watched
  · intro room file among watched present
    rw [settled.backups]
    exact kept.whole room file among watched present

theorem Distributed.settled (kept : Distributed relied tag entries first before)
    (settled : Settled relied before after) : Distributed relied tag entries first after :=
  ⟨settled.broken.trans kept.whole, kept.oldOrNew.settled settled, kept.backedUp.settled settled,
    kept.carries.same settled.home⟩

theorem Restored.settled (kept : Restored relied entries first before)
    (settled : Settled relied before after) : Restored relied entries first after := by
  constructor
  · intro room whole
    exact (kept.intact room (settled.broken.symm.trans whole)).settled settled
  · intro room file watched present
    exact (settled.home file watched.stable).trans (kept.old room file watched present)

theorem Fresh.drifts {unit : String} (fresh : Fresh relied entries before unit)
    (carries : Carries relied entries before.home) (drifts : Drifts relied before after) :
    Fresh relied entries after unit := by
  intro files isRunning
  cases drifts.running unit files isRunning with
  | inl was => exact fresh files was
  | inr started => exact carries.same started

theorem Updated.drifts (updated : Updated relied source entries before)
    (drifts : Drifts relied before after) : Updated relied source entries after where
  files := updated.files.same drifts.home
  units unit among content isUnit := by
    rw [drifts.units]
    exact updated.units unit among content isUnit
  running unit among := (updated.running unit among).drifts updated.files drifts

theorem Prepared.intact (kept : Prepared relied tag first after) :
    Intact relied entries first after :=
  fun _ _ file watched => .inl (kept.same file watched.stable)

theorem Distributed.intact (kept : Distributed relied tag entries first after) :
    Intact relied entries first after := fun _ _ => kept.oldOrNew

end Closed

/-! ## Rules -/

section Rules

variable {relied : Relied} {entries : List (String × Content)} {fact : Child → Prop}
  {now : Child} {α : Type} {program : Script α}

/-- Such commands only, and no failure. -/
abbrev Checks (allowed : Ask → Prop) : Script α → Prop :=
  Dialogue.Within allowed fun _ => False

theorem safe_checks {allowed : Ask → Prop} (checks : Checks allowed program)
    (stable : ∀ before question (reply : Reply question) after, allowed question →
      fact before → Does relied before question reply after → fact after) (start : fact now) :
    (onChild relied).Safe fact (fun outcome after => fact after ∧ ∃ result, outcome = .ok result)
      program now := by
  refine (Environment.safe_of_within checks stable start).mono (fun _ kept => kept)
    fun outcome after kept raises => ⟨kept, ?_⟩
  cases outcome with
  | ok result => exact ⟨result, rfl⟩
  | error exit => exact (raises exit rfl).elim

/-- What drifting keeps is kept by commands that do nothing else. -/
theorem safe_quiet (closed : ∀ before after, Drifts relied before after → fact before → fact after)
    (checks : Checks Quiet program) (start : fact now) :
    (onChild relied).Safe fact (fun outcome after => fact after ∧ ∃ result, outcome = .ok result)
      program now :=
  safe_checks checks (fun before _ _ after quiet kept does =>
    closed before after (drifts_of_quiet quiet does) kept) start

theorem safe_steady
    (closed : ∀ before after, Settled relied before after → fact before → fact after)
    (checks : Checks Steady program) (start : fact now) :
    (onChild relied).Safe fact (fun outcome after => fact after ∧ ∃ result, outcome = .ok result)
      program now :=
  safe_checks checks (fun before _ _ after steady kept does =>
    closed before after (settled_of_steady steady does) kept) start

theorem safe_run {command : Command} {post : Except Exit Bool → Child → Prop} :
    (onChild relied).Safe fact post (run command) now ↔
      fact now ∧ ∀ done after, Does relied now (.run command) done after →
        fact after ∧ post (.ok done) after := Iff.rfl

theorem safe_require {command : Command} {exit : Exit} {post : Except Exit Unit → Child → Prop}
    (start : fact now)
    (succeeds : ∀ after, Does relied now (.run command) true after →
      fact after ∧ post (.ok ()) after)
    (fails : ∀ after, Does relied now (.run command) false after →
      fact after ∧ post (.error exit) after) :
    (onChild relied).Safe fact post (require command exit) now := by
  refine Environment.safe_bind.mpr (safe_run.mpr ⟨start, fun done after does => ?_⟩)
  cases done with
  | true => exact ⟨(succeeds after does).1, succeeds after does⟩
  | false => exact ⟨(fails after does).1, fails after does⟩

end Rules

/-! ## Checks -/

section Checks

variable {allowed : Ask → Prop}

theorem within_request {raised : Exit → Prop} {question : Ask} (isAllowed : allowed question) :
    Dialogue.Within allowed raised (Dialogue.request question : Script (Reply question)) :=
  ⟨isAllowed, fun _ => trivial⟩

theorem checks_run {raised : Exit → Prop} {command : Command}
    (isAllowed : allowed (.run command)) : Dialogue.Within allowed raised (run command) :=
  within_request isAllowed

theorem checks_get (ip : List Char) (path : String) : Checks Quiet (get ip path) :=
  within_request trivial

theorem checks_restartEach (units : List String) : Checks Quiet (restartEach units) := by
  induction units with
  | nil => trivial
  | cons unit units ih =>
      refine (checks_run trivial).bind fun enabled => ?_
      split
      · refine (checks_run trivial).bind fun restarted => ?_
        split
        · exact ih
        · trivial
      · trivial

theorem checks_childRestartUnits (units : List String) : Checks Quiet (childRestartUnits units) :=
  (checks_run trivial).bind fun _ => checks_restartEach units

theorem checks_allActive (units : List String) : Checks Quiet (allActive units) := by
  induction units with
  | nil => trivial
  | cons unit units ih =>
      refine (checks_run trivial).bind fun isActive => ?_
      split
      · exact ih
      · trivial

theorem checks_childHealthcheck (settings : Settings) (ip : List Char) (units : List String) :
    Checks Quiet (childHealthcheck settings ip units) := by
  refine (checks_allActive units).bind fun first => ?_
  split
  · refine (checks_run trivial).bind fun _ => (checks_allActive units).bind fun second => ?_
    split
    · split
      · exact (checks_get ip _).bind fun _ => trivial
      · trivial
    · trivial
  · trivial

theorem checks_pollStatus (ip : List Char) (rounds : Nat) (status : List Char) :
    Checks Quiet (pollStatus ip rounds status) := by
  induction rounds generalizing status with
  | zero => trivial
  | succ rounds ih =>
      refine (checks_get ip _).bind fun reply => ?_
      dsimp only
      split
      · trivial
      · exact (checks_run trivial).bind fun _ => ih _

theorem checks_childModelReady (settings : Settings) (ip : List Char) :
    Checks Quiet (childModelReady settings ip) :=
  (checks_pollStatus ip _ []).bind fun _ => trivial

theorem checks_childE2eSendCheck (ip : List Char) : Checks Quiet (childE2eSendCheck ip) := by
  refine (checks_get ip _).bind fun reply => ?_
  split
  · exact (checks_run trivial).bind fun _ => (checks_get ip _).bind fun _ => trivial
  · trivial

theorem checks_passes (settings : Settings) (ip : List Char) :
    Checks Quiet (passes settings ip) := by
  refine (checks_childHealthcheck settings ip childUnits).bind fun healthy => ?_
  split
  · refine (checks_childModelReady settings ip).bind fun ready => ?_
    split
    · split
      · exact checks_childE2eSendCheck ip
      · trivial
    · trivial
  · trivial

theorem within_requireChildReachable (settings : Settings) :
    Dialogue.Within Quiet (fun exit => exit ≠ .rolledBack) (requireChildReachable settings) := by
  refine Dialogue.Within.bind ?_ fun _ => Dialogue.Within.bind ?_ fun ip =>
    (within_request trivial).bind fun free => ?_
  · refine (checks_run trivial).bind fun done => ?_
    split
    · trivial
    · exact fun same => by cases same
  · rw [childResolveApIp]
    split
    · trivial
    · refine (within_request trivial).bind fun addresses => ?_
      split
      · trivial
      · exact fun same => by cases same
  · dsimp only
    split
    · trivial
    · exact fun same => by cases same

theorem checks_restoreUnits (tag : String) (units : List String) :
    Checks Steady (restoreUnits tag units) := by
  induction units with
  | nil => trivial
  | cons unit units ih =>
      refine (checks_run trivial).bind fun has => ?_
      split
      · exact (checks_run trivial).bind fun _ => ih
      · exact ih

end Checks

/-! ## Services -/

section Services

variable {relied : Relied} {source : Source} {entries : List (String × Content)} {now : Child}
  {fact : Child → Prop}

/-- A check has been made, and where it says so the services run the release. -/
def Shown (relied : Relied) (entries : List (String × Content)) (fact : Child → Prop)
    (units : List String) (outcome : Except Exit Bool) (after : Child) : Prop :=
  fact after ∧ ∃ works, outcome = .ok works ∧
    (works = true → ∀ unit ∈ units, Fresh relied entries after unit)

theorem shown_false {units : List String} (kept : fact now) :
    Shown relied entries fact units (.ok false) now :=
  ⟨kept, false, rfl, fun works => by cases works⟩

/-- Services that have been started anew run the release. -/
theorem safe_restartEach
    (closed : ∀ before after, Drifts relied before after → fact before → fact after)
    (carries : ∀ child, fact child → Carries relied entries child.home) (units : List String)
    (start : fact now) :
    (onChild relied).Safe fact (Shown relied entries fact units) (restartEach units) now := by
  induction units generalizing fact now with
  | nil => exact ⟨start, start, true, rfl, fun _ unit among => absurd among List.not_mem_nil⟩
  | cons unit units ih =>
      refine Environment.safe_bind.mpr (safe_run.mpr ⟨start, fun enabled after does => ?_⟩)
      have kept : fact after := closed _ _ does start
      refine ⟨kept, ?_⟩
      cases enabled with
      | false => exact ⟨kept, shown_false kept⟩
      | true =>
          refine Environment.safe_bind.mpr (safe_run.mpr ⟨kept, fun restarted last does => ?_⟩)
          obtain ⟨drifts, started⟩ := does
          have still : fact last := closed _ _ drifts kept
          refine ⟨still, ?_⟩
          cases restarted with
          | false => exact ⟨still, shown_false still⟩
          | true =>
              have isFresh : Fresh relied entries last unit := fun files isRunning =>
                (carries _ kept).same (started rfl files isRunning)
              have closedToo : ∀ before after, Drifts relied before after →
                  fact before ∧ Fresh relied entries before unit →
                    fact after ∧ Fresh relied entries after unit := fun before after drifts both =>
                ⟨closed _ _ drifts both.1, both.2.drifts (carries _ both.1) drifts⟩
              refine (ih closedToo (fun child both => carries child both.1)
                ⟨still, isFresh⟩).mono (fun _ both => both.1) fun outcome after _ told => ?_
              obtain ⟨both, works, isOk, others⟩ := told
              exact ⟨both.1, works, isOk, fun yes =>
                List.forall_mem_cons.mpr ⟨both.2, others yes⟩⟩

theorem safe_comesUp {settings : Settings} {ip : List Char}
    (closed : ∀ before after, Drifts relied before after → fact before → fact after)
    (carries : ∀ child, fact child → Carries relied entries child.home) (start : fact now) :
    (onChild relied).Safe fact (Shown relied entries fact childUnits) (comesUp settings ip)
      now := by
  refine Environment.safe_bind.mpr (Environment.safe_bind.mpr
    (safe_run.mpr ⟨start, fun reloaded after does => ?_⟩))
  have kept : fact after := closed _ _ does start
  refine ⟨kept, (safe_restartEach closed carries childUnits kept).mono (fun _ kept => kept)
    fun outcome after kept told => ?_⟩
  obtain ⟨-, works, isOk, fresh⟩ := told
  subst isOk
  cases works with
  | false => exact ⟨kept, shown_false kept⟩
  | true =>
      have closedToo : ∀ before after, Drifts relied before after →
          (fact before ∧ ∀ unit ∈ childUnits, Fresh relied entries before unit) →
            fact after ∧ ∀ unit ∈ childUnits, Fresh relied entries after unit :=
        fun before after drifts both => ⟨closed _ _ drifts both.1, fun unit among =>
          (both.2 unit among).drifts (carries _ both.1) drifts⟩
      refine Environment.Safe.mono (safe_quiet closedToo (checks_passes settings ip)
        ⟨kept, fresh rfl⟩) (fun _ both => both.1) fun outcome after _ told => ?_
      obtain ⟨both, result, isOk⟩ := told
      exact ⟨both.1, result, isOk, fun _ => both.2⟩

theorem safe_installUnits
    (closed : ∀ before after, Settled relied before after → fact before → fact after)
    {units : List String} (nodup : units.Nodup) (done : List String)
    (apart : ∀ unit ∈ done, unit ∉ units)
    (installed : ∀ unit ∈ done, Installed source now unit) (start : fact now) :
    (onChild relied).Safe fact (fun outcome after => outcome = .error .errexit ∨
      outcome = .ok () ∧ ∀ unit, unit ∈ done ∨ unit ∈ units → Installed source after unit)
      (installUnits source units) now := by
  induction units generalizing done now with
  | nil =>
      exact ⟨start, .inr ⟨rfl, fun unit among =>
        installed unit (among.resolve_right List.not_mem_nil)⟩⟩
  | cons unit units ih =>
      obtain ⟨notAgain, nodup⟩ := List.nodup_cons.mp nodup
      have apartToo : ∀ other ∈ unit :: done, other ∉ units :=
        List.forall_mem_cons.mpr ⟨notAgain, fun other among inRest =>
          apart other among (List.mem_cons_of_mem _ inRest)⟩
      have goOn (child : Child) (own : Installed source child unit)
          (others : ∀ other ∈ done, Installed source child other) (kept : fact child) :
          (onChild relied).Safe fact (fun outcome after => outcome = .error .errexit ∨
            outcome = .ok () ∧
              ∀ other, other ∈ done ∨ other ∈ unit :: units → Installed source after other)
            (installUnits source units) child := by
        refine (ih nodup (unit :: done) apartToo (List.forall_mem_cons.mpr ⟨own, others⟩)
          kept).mono (fun _ kept => kept) fun outcome after _ told => told.imp_right fun done => ?_
        refine ⟨done.1, fun other among => done.2 other ?_⟩
        simp only [List.mem_cons] at among ⊢
        tauto
      rw [installUnits]
      cases isUnit : source.units unit with
      | none =>
          refine goOn now (fun content has => ?_) installed start
          rw [isUnit] at has
          cases has
      | some content =>
          refine Environment.safe_bind.mpr (safe_require start (fun after does => ?_)
            fun after does => ?_)
          · have uploads : Steady (.run (.upload unit content)) := trivial
            have kept : fact after := closed _ _ (settled_of_steady uploads does) start
            obtain ⟨incoming, sets, drifts⟩ := does
            have arrived : after.incoming unit = some content := by
              rw [drifts.incoming]
              exact sets.own rfl
            have installs : Steady (.run (.install unit)) := trivial
            refine ⟨kept, Environment.safe_bind.mpr (safe_require kept (fun last does => ?_)
              fun last does => ?_)⟩
            · have still : fact last := closed _ _ (settled_of_steady installs does) kept
              obtain ⟨placed, places, moves⟩ := does
              refine ⟨still, goOn last (fun other has => ?_) (fun other among => ?_) still⟩
              · rw [isUnit] at has
                cases has
                rw [moves.units]
                exact (places.own rfl).trans arrived
              · intro has isOther
                have differs : other ≠ unit := fun same =>
                  apart other among (same ▸ List.mem_cons_self)
                rw [moves.units]
                refine (places.others other differs).trans ?_
                rw [drifts.units]
                exact installed other among has isOther
            · have still : fact last := closed _ _ (settled_of_steady installs does) kept
              exact ⟨still, .inl rfl⟩
          · have uploads : Steady (.run (.upload unit content)) := trivial
            have kept : fact after := closed _ _ (settled_of_steady uploads does) start
            exact ⟨kept, .inl rfl⟩

end Services

end PresenceLogger.Fleet.Deploy
