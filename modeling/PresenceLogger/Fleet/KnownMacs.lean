import PresenceLogger.Fleet.FleetView
import PresenceLogger.Library.FormData
import PresenceLogger.Library.JsonText
import PresenceLogger.Library.Threads

/-!
# Recorded MACs

The MAC of an entry is trusted at first contact and recorded in a file.  A request for the
fleet view loads the file, and when it has learned something it writes the whole map again.
Requests run on threads of their own and take no lock.
-/

namespace PresenceLogger.Fleet

open Library

/-! ## The file -/

/-- The bytes of `known_macs.json`, if it is there. -/
abbrev MacFile := Option (List UInt8)

/-- The members that are strings; of a text that is no object there are none. -/
def readKnownMacs (text : List Char) : KnownMacs :=
  match JsonText.loadsObject text with
  | none => Table.empty
  | some members =>
      let d := Dict.ofPairs (members.map fun member => (String.ofList member.1, member.2))
      .ofPairs (d.rows.filterMap fun row =>
        match row.2 with
        | .text chars => some (row.1, String.ofList chars)
        | .other => none)

/-- `load_known_macs`, with `none` for a `UnicodeDecodeError`. -/
def loadKnownMacs (file : MacFile) (readable : Bool) : Option KnownMacs :=
  match file with
  | none => some Table.empty
  | some bytes =>
      if readable then (Utf8.decode bytes.toByteArray).map readKnownMacs else some Table.empty

def jsonMembers (macs : KnownMacs) : List (List Char × List Char) :=
  macs.rows.map fun row => (row.1.toList, row.2.toList)

/-- The bytes that `save_known_macs` writes. -/
def dumpKnownMacs (macs : KnownMacs) : List UInt8 :=
  FormData.bytes (JsonText.dumpsObject (jsonMembers macs))

/-- `write` at the position of an open file. -/
def writeAt (bytes : List UInt8) (position : Nat) (chunk : List UInt8) : List UInt8 :=
  bytes.take position ++ List.replicate (position - bytes.length) 0 ++ chunk ++
    bytes.drop (position + chunk.length)

/-! ## Requests -/

/-- A call of `_gather`, with what it has observed when it loads the file. -/
structure Gather where
  thread : Nat
  neighbors : List Neighbor
  inventoryIps : Inventory
  statuses : Statuses
  hub : String
  /-- The file can be read, if it is there. -/
  readable : Bool

/-- Where a request stands in `save_known_macs`. -/
inductive GatherPoint where
  | opening (macs : KnownMacs)
  | writing (bytes : List UInt8) (position : Nat)

inductive GatherInput where
  /-- The call succeeds; a write takes at most this many bytes. -/
  | done (count : Nat)
  /-- An `OSError`. -/
  | failed
  deriving DecidableEq

def newlyTrusted (render : Json → Option String) (request : Gather) (known : KnownMacs) :
    KnownMacs :=
  (buildFleetView render request.neighbors request.inventoryIps request.statuses known
    request.hub).newlyTrustedMacs

namespace Gather

def start (render : Json → Option String) (file : MacFile) (request : Gather) :
    Outcome MacFile GatherPoint Empty :=
  match loadKnownMacs file request.readable with
  | none => ⟨file, none, []⟩
  | some known =>
      let newly := newlyTrusted render request known
      if newly.rows = [] then ⟨file, none, []⟩ else ⟨file, some (.opening (known.merge newly)), []⟩

def resume (file : MacFile) (point : GatherPoint) (input : GatherInput) :
    Outcome MacFile GatherPoint Empty :=
  match point, input with
  | _, .failed => ⟨file, none, []⟩
  | .opening macs, .done _ => ⟨some [], some (.writing (dumpKnownMacs macs) 0), []⟩
  | .writing bytes position, .done count =>
      let chunk := (bytes.drop position).take count
      let position' := position + chunk.length
      ⟨some (writeAt (file.getD []) position chunk),
        if position' < bytes.length then some (.writing bytes position') else none, []⟩

/-- The threads of the server; a crash ends them all. -/
def program (render : Json → Option String) :
    Program Nat Gather GatherPoint MacFile GatherInput Empty Unit where
  thread request := request.thread
  start := start render
  resume := resume
  ends _ _ := true
  restart file _ := file

end Gather

/-! ## What is loaded -/

theorem readKnownMacs_dumpsObject (macs : KnownMacs) :
    readKnownMacs (JsonText.dumpsObject (jsonMembers macs)) = macs := by
  have members : (macs.rows.map fun row => (row.1, JsonText.Scanned.text row.2.toList)).map
      Prod.fst = macs.rows.map Prod.fst := by
    simp
  have loaded : (Dict.ofPairs (macs.rows.map fun row =>
      (row.1, JsonText.Scanned.text row.2.toList))).rows =
        macs.rows.map fun row => (row.1, JsonText.Scanned.text row.2.toList) :=
    Dict.rows_ofPairs (by rw [members]; exact macs.nodup)
  simp [readKnownMacs, JsonText.loadsObject_dumpsObject, jsonMembers, List.map_map,
    Function.comp_def, loaded, List.filterMap_map, Dict.ofPairs_rows]

theorem loadKnownMacs_dump (macs : KnownMacs) :
    loadKnownMacs (some (dumpKnownMacs macs)) true = some macs := by
  simp [loadKnownMacs, dumpKnownMacs, FormData.toByteArray_bytes, readKnownMacs_dumpsObject]

theorem toByteArray_dump (macs : KnownMacs) :
    (dumpKnownMacs macs).toByteArray = Utf8.encode (JsonText.dumpsObject (jsonMembers macs)) :=
  FormData.toByteArray_bytes _

theorem dumpKnownMacs_ne_nil (macs : KnownMacs) : dumpKnownMacs macs ≠ [] := by
  obtain ⟨body, written, -⟩ := JsonText.exists_scanObject (jsonMembers macs)
  have brace : String.utf8EncodeChar '{' = [123] := by decide
  rw [dumpKnownMacs, written, FormData.bytes, List.flatMap_cons, brace]
  simp

/-- A file that is written in part is read as no map. -/
theorem loadKnownMacs_take {macs known : KnownMacs} {position : Nat} {readable : Bool}
    (partly : position < (dumpKnownMacs macs).length)
    (loaded : loadKnownMacs (some ((dumpKnownMacs macs).take position)) readable = some known) :
    known = Table.empty := by
  cases readable with
  | false => exact (Option.some.inj loaded).symm
  | true =>
      obtain ⟨text, decoded, rfl⟩ := Option.map_eq_some_iff.mp loaded
      have whole : Utf8.decode (((dumpKnownMacs macs).take position).toByteArray ++
          ((dumpKnownMacs macs).drop position).toByteArray) =
            some (JsonText.dumpsObject (jsonMembers macs)) := by
        rw [← List.toByteArray_append, List.take_append_drop, toByteArray_dump,
          Utf8.decode_encode]
      have cut := Utf8.prefix_of_decode_append decoded whole
      have shorter : text ≠ JsonText.dumpsObject (jsonMembers macs) := by
        rintro rfl
        have sizes := congrArg ByteArray.size
          ((Utf8.encode_of_decode decoded).symm.trans (toByteArray_dump macs).symm)
        simp only [List.size_toByteArray, List.length_take] at sizes
        omega
      simp [readKnownMacs, JsonText.loadsObject_of_isPrefix cut shorter]

theorem writeAt_take {bytes : List UInt8} {position : Nat} (count : Nat)
    (within : position ≤ bytes.length) :
    writeAt (bytes.take position) position ((bytes.drop position).take count) =
      bytes.take (position + ((bytes.drop position).take count).length) := by
  have isLength : (bytes.take position).length = position := by
    rw [List.length_take, Nat.min_eq_left within]
  have gone : (bytes.take position).drop
      (position + ((bytes.drop position).take count).length) = [] := by
    rw [List.drop_eq_nil_iff, isLength]
    omega
  rw [writeAt, gone, isLength]
  simp [List.take_take, List.take_add]

/-! ## Trust -/

namespace KnownMacs

/-- No two entries have the same MAC. -/
def Injective (macs : KnownMacs) : Prop :=
  ∀ left right mac, macs.find left = some mac → macs.find right = some mac → left = right

/-- Every entry of the other map keeps its MAC. -/
def Extends (macs other : KnownMacs) : Prop :=
  ∀ entry mac, other.find entry = some mac → macs.find entry = some mac

theorem injective_empty : Injective Table.empty := by
  intro left right mac found
  cases found

theorem Extends.refl (macs : KnownMacs) : macs.Extends macs := fun _ _ found => found

theorem Extends.trans {macs other earlier : KnownMacs} (later : macs.Extends other)
    (before : other.Extends earlier) : macs.Extends earlier :=
  fun entry mac found => later entry mac (before entry mac found)

end KnownMacs

/-- The entry has no recorded MAC and is matched with a device that has this one. -/
def Trusts (request : Gather) (known : KnownMacs) (entry mac : String) : Prop :=
  known.find entry = none ∧
    ∃ device, Identifies request.neighbors request.inventoryIps known entry device ∧
      device.mac = mac

/-- A MAC that comes to be trusted is that of one entry only. -/
def LearnsApart (request : Gather) (known : KnownMacs) : Prop :=
  ∀ left right mac, Trusts request known left mac →
    Trusts request known right mac ∨ known.find right = some mac → left = right

theorem trusts_of_newlyTrusted {render : Json → Option String} {request : Gather}
    {known : KnownMacs} {entry mac : String}
    (learned : (newlyTrusted render request known).find entry = some mac) :
    Trusts request known entry mac := by
  obtain ⟨row, among, made⟩ := List.mem_filterMap.mp (Dict.mem_of_find_ofPairs learned)
  split at made
  next learnedEntry learnedMac isKnown isEntry isMac =>
    split at made
    next unrecorded =>
      cases made
      obtain ⟨entry, device, identified, rfl⟩ := known_mem_classify.mp ⟨among, isKnown⟩
      cases isEntry
      cases isMac
      exact ⟨unrecorded, device, identified, rfl⟩
    · cases made
  · cases made

theorem injective_merge {render : Json → Option String} {request : Gather} {known : KnownMacs}
    (injective : known.Injective) (apart : LearnsApart request known) :
    KnownMacs.Injective (known.merge (newlyTrusted render request known)) := by
  have origin {entry mac : String}
      (found : (known.merge (newlyTrusted render request known)).find entry = some mac) :
      Trusts request known entry mac ∨ known.find entry = some mac := by
    rw [Dict.find_merge] at found
    rcases Option.or_eq_some_iff.mp found with learned | ⟨-, recorded⟩
    · exact .inl (trusts_of_newlyTrusted learned)
    · exact .inr recorded
  intro left right mac foundLeft foundRight
  rcases origin foundLeft with trusted | recorded
  · exact apart left right mac trusted (origin foundRight)
  · rcases origin foundRight with trusted | recordedRight
    · exact (apart right left mac trusted (.inr recorded)).symm
    · exact injective left right mac recorded recordedRight

/-- What is recorded stays as it is. -/
theorem extends_merge {render : Json → Option String} {request : Gather} {known : KnownMacs} :
    KnownMacs.Extends (known.merge (newlyTrusted render request known)) known := by
  intro entry mac recorded
  rw [Dict.find_merge]
  cases learned : (newlyTrusted render request known).find entry with
  | none => exact recorded
  | some other => cases (trusts_of_newlyTrusted learned).1.symm.trans recorded

/-! ## Runs -/

abbrev GatherState := ThreadState Nat GatherPoint MacFile

abbrev GatherStep := ThreadStep Nat Gather GatherInput Unit

/-- No write is in progress. -/
def Settled (state : GatherState) : Prop :=
  ∀ thread bytes position, state.point thread ≠ some (.writing bytes position)

theorem settled_idle (file : MacFile) : Settled (Program.idle file) := by
  intro thread bytes position stands
  cases stands

theorem Settled.install {state : GatherState} (quiet : Settled state) {thread : Nat}
    {outcome : Outcome MacFile GatherPoint Empty}
    (rests : ∀ bytes position, outcome.point ≠ some (.writing bytes position)) :
    Settled (Program.install state thread outcome) := by
  intro other bytes position stands
  obtain ⟨-, here⟩ | ⟨-, there⟩ := Program.of_install_point stands
  · exact rests bytes position here
  · exact quiet other bytes position there

/-- What is loaded in any state of the run is injective, and from one state without a
write to a later one every entry keeps its MAC. -/
structure KeepsTrust (render : Json → Option String) (file : MacFile)
    (steps : List GatherStep) : Prop where
  injective : ∀ before after, steps = before ++ after → ∀ readable known,
    loadKnownMacs ((Gather.program render).machine.final (Program.idle file) before).memory
        readable = some known →
      known.Injective
  monotone : ∀ before middle after, steps = before ++ middle ++ after →
    let earlier := (Gather.program render).machine.final (Program.idle file) before
    let later := (Gather.program render).machine.final (Program.idle file) (before ++ middle)
    Settled earlier → Settled later →
      ∃ stored laterStored, loadKnownMacs earlier.memory true = some stored ∧
        loadKnownMacs later.memory true = some laterStored ∧ laterStored.Extends stored

/-- The file as a request has found it. -/
structure Load where
  file : MacFile
  readable : Bool

/-- What each thread has loaded since it was last free. -/
abbrev Loads := Nat → Option Load

def noteLoad (state : GatherState) (step : GatherStep) (loads : Loads) : Loads :=
  match step with
  | .call request =>
      match state.point request.thread with
      | none => Function.update loads request.thread (some ⟨state.memory, request.readable⟩)
      | some _ => loads
  | _ => loads

/-- The server, with a note of what its requests have loaded. -/
abbrev noted (render : Json → Option String) :
    Machine (GatherState × Loads) GatherStep Empty :=
  (Gather.program render).machine.recording noteLoad

/-- A request learns no MAC twice.  It opens the file when no write is in progress, it could
read the file, and nothing has been stored since it did.  The write is neither cut off nor
interrupted by a crash. -/
def Orderly (state : GatherState × Loads) : GatherStep → Prop
  | .call request =>
      ∀ known, loadKnownMacs state.1.memory request.readable = some known →
        LearnsApart request known
  | .resume thread input =>
      match state.1.point thread with
      | some (.opening _) =>
          input = .failed ∨ Settled state.1 ∧ state.2 thread = some ⟨state.1.memory, true⟩
      | some (.writing _ _) => input ≠ .failed
      | none => True
  | .crash _ => Settled state.1

/-- The map extends what the thread has loaded. -/
def Grown (loads : Loads) (thread : Nat) (macs : KnownMacs) : Prop :=
  ∃ load, loads thread = some load ∧ ∀ known,
    loadKnownMacs load.file load.readable = some known → macs.Extends known

/-- The last map that was stored in full, and what the requests are about to write. -/
structure Sound (stored : KnownMacs) (state : GatherState) (loads : Loads) : Prop where
  injective : stored.Injective
  settled : Settled state → loadKnownMacs state.memory true = some stored
  opening : ∀ thread macs, state.point thread = some (.opening macs) →
    macs.Injective ∧ Grown loads thread macs
  writing : ∀ thread bytes position, state.point thread = some (.writing bytes position) →
    (∀ other, other ≠ thread → ∀ bytes position,
      state.point other ≠ some (.writing bytes position)) ∧
      ∃ macs, bytes = dumpKnownMacs macs ∧ position < bytes.length ∧
        state.memory = some (bytes.take position) ∧ macs.Injective ∧ macs.Extends stored

namespace Sound

variable {render : Json → Option String} {stored : KnownMacs} {state : GatherState}
  {loads : Loads}

theorem injective_of_load (sound : Sound stored state loads) {readable : Bool} {known : KnownMacs}
    (loaded : loadKnownMacs state.memory readable = some known) : known.Injective := by
  by_cases quiet : Settled state
  · have whole := sound.settled quiet
    cases file : state.memory with
    | none =>
        rw [file] at loaded
        cases loaded
        exact KnownMacs.injective_empty
    | some bytes =>
        rw [file] at loaded whole
        cases readable with
        | false =>
            cases loaded
            exact KnownMacs.injective_empty
        | true =>
            cases loaded.symm.trans whole
            exact sound.injective
  · simp only [Settled, not_forall, not_not] at quiet
    obtain ⟨thread, bytes, position, stands⟩ := quiet
    obtain ⟨-, macs, rfl, within, partly, -⟩ := sound.writing thread bytes position stands
    rw [partly] at loaded
    rw [loadKnownMacs_take within loaded]
    exact KnownMacs.injective_empty

/-- A thread that does not write goes on without writing. -/
theorem install (sound : Sound stored state loads) {thread : Nat}
    {outcome : Outcome MacFile GatherPoint Empty} (same : outcome.memory = state.memory)
    (was : ∀ bytes position, state.point thread ≠ some (.writing bytes position))
    {loads' : Loads} (kept : ∀ other, other ≠ thread → loads' other = loads other)
    (opens : ∀ point ∈ outcome.point,
      ∃ macs, point = .opening macs ∧ macs.Injective ∧ Grown loads' thread macs) :
    Sound stored (Program.install state thread outcome) loads' := by
  have others {other : Nat} {bytes : List UInt8} {position : Nat}
      (goes : (Program.install state thread outcome).point other = some (.writing bytes position)) :
      state.point other = some (.writing bytes position) := by
    obtain ⟨rfl, here⟩ | ⟨-, there⟩ := Program.of_install_point goes
    · obtain ⟨macs, isOpening, -, -⟩ := opens _ here
      cases isOpening
    · exact there
  exact {
    injective := sound.injective
    settled := by
      intro quiet
      rw [Program.install_memory, same]
      apply sound.settled
      intro other bytes position stands
      by_cases here : other = thread
      · subst here
        exact was bytes position stands
      · apply quiet other bytes position
        rwa [Program.install_point_of_ne state outcome here]
    opening := by
      intro other macs goes
      obtain ⟨rfl, here⟩ | ⟨apart, there⟩ := Program.of_install_point goes
      · obtain ⟨learned, isOpening, injective, grown⟩ := opens _ here
        cases isOpening
        exact ⟨injective, grown⟩
      · obtain ⟨injective, grown⟩ := sound.opening other macs there
        rw [Grown, ← kept other apart] at grown
        exact ⟨injective, grown⟩
    writing := by
      intro other bytes position goes
      obtain ⟨alone, rest⟩ := sound.writing other bytes position (others goes)
      rw [Program.install_memory, same]
      exact ⟨fun third apart bytes position goes => alone third apart bytes position (others goes),
        rest⟩ }

/-- The file is opened for the only write. -/
theorem opened (sound : Sound stored state loads) (quiet : Settled state) {thread : Nat}
    {macs : KnownMacs} (stands : state.point thread = some (.opening macs))
    (current : loads thread = some ⟨state.memory, true⟩) (count : Nat) :
    Sound stored (Program.install state thread
      (Gather.resume state.memory (.opening macs) (.done count))) loads where
  injective := sound.injective
  settled now := by
    have writes := now thread (dumpKnownMacs macs) 0
    rw [Program.install_point_self] at writes
    exact absurd rfl writes
  opening := by
    intro other learned goes
    obtain ⟨-, here⟩ | ⟨-, there⟩ := Program.of_install_point goes
    · cases here
    · exact sound.opening other learned there
  writing := by
    intro other bytes position goes
    obtain ⟨rfl, here⟩ | ⟨-, there⟩ := Program.of_install_point goes
    · cases here
      constructor
      · intro third apart bytes position
        rw [Program.install_point_of_ne state _ apart]
        exact quiet third bytes position
      · obtain ⟨injective, load, isLoad, extended⟩ := sound.opening other macs stands
        cases current.symm.trans isLoad
        exact ⟨macs, rfl, List.length_pos_iff.mpr (dumpKnownMacs_ne_nil macs), rfl, injective,
          extended stored (sound.settled quiet)⟩
    · exact absurd there (quiet other bytes position)

/-- The only write goes on, or ends with the whole map in the file. -/
theorem wrote (sound : Sound stored state loads) {thread : Nat} {bytes : List UInt8} {position : Nat}
    (stands : state.point thread = some (.writing bytes position)) (count : Nat) :
    ∃ later, Sound later (Program.install state thread
      (Gather.resume state.memory (.writing bytes position) (.done count))) loads ∧
        later.Extends stored := by
  obtain ⟨alone, macs, rfl, within, partly, injective, keeps⟩ :=
    sound.writing thread bytes position stands
  let position' := position + (((dumpKnownMacs macs).drop position).take count).length
  let outcome := Gather.resume state.memory (.writing (dumpKnownMacs macs) position) (.done count)
  have memory : outcome.memory = some ((dumpKnownMacs macs).take position') := by
    simp only [outcome, Gather.resume, partly, Option.getD_some, writeAt_take count within.le,
      position']
  have point : outcome.point = if position' < (dumpKnownMacs macs).length then
      some (.writing (dumpKnownMacs macs) position') else none := rfl
  have openings : ∀ other learned,
      (Program.install state thread outcome).point other = some (.opening learned) →
        learned.Injective ∧ Grown loads other learned := by
    intro other learned goes
    obtain ⟨-, here⟩ | ⟨-, there⟩ := Program.of_install_point goes
    · rw [point] at here
      split at here <;> cases here
    · exact sound.opening other learned there
  by_cases unfinished : position' < (dumpKnownMacs macs).length
  · rw [if_pos unfinished] at point
    refine ⟨stored, ⟨sound.injective, ?_, openings, ?_⟩, .refl stored⟩
    · intro now
      have writes := now thread (dumpKnownMacs macs) position'
      rw [Program.install_point_self, point] at writes
      exact absurd rfl writes
    · intro other bytes position goes
      obtain ⟨rfl, here⟩ | ⟨apart, there⟩ := Program.of_install_point goes
      · cases point.symm.trans here
        refine ⟨?_, macs, rfl, unfinished, memory, injective, keeps⟩
        intro third apart bytes position
        rw [Program.install_point_of_ne state _ apart]
        exact alone third apart bytes position
      · exact absurd there (alone other apart bytes position)
  · rw [if_neg unfinished] at point
    have full : (dumpKnownMacs macs).take position' = dumpKnownMacs macs :=
      List.take_of_length_le (Nat.not_lt.mp unfinished)
    refine ⟨macs, ⟨injective, ?_, openings, ?_⟩, keeps⟩
    · intro _
      rw [Program.install_memory, memory, full, loadKnownMacs_dump]
    · intro other bytes position goes
      obtain ⟨-, here⟩ | ⟨apart, there⟩ := Program.of_install_point goes
      · cases point.symm.trans here
      · exact absurd there (alone other apart bytes position)

variable (render) in
theorem called (sound : Sound stored state loads) {request : Gather}
    (free : state.point request.thread = none)
    (apart : ∀ known, loadKnownMacs state.memory request.readable = some known →
      LearnsApart request known) :
    Sound stored (Program.install state request.thread
      (Gather.start render state.memory request))
      (Function.update loads request.thread (some ⟨state.memory, request.readable⟩)) := by
  apply sound.install
  · unfold Gather.start
    split
    · rfl
    · dsimp only
      split <;> rfl
  · intro bytes position stands
    cases free.symm.trans stands
  · intro other apart
    exact Function.update_of_ne apart _ _
  · intro point starts
    unfold Gather.start at starts
    split at starts
    · cases starts
    next known loaded =>
      dsimp only at starts
      split at starts
      · cases starts
      · cases starts
        refine ⟨_, rfl, injective_merge (sound.injective_of_load loaded) (apart known loaded),
          _, Function.update_self _ _ _, ?_⟩
        intro found isFound
        cases loaded.symm.trans isFound
        exact extends_merge

variable (render) in
/-- An orderly step keeps or extends the stored map. -/
theorem step (sound : Sound stored state loads) {step : GatherStep}
    (orderly : Orderly (state, loads) step) :
    ∃ later, Sound later ((noted render).step (state, loads) step).1.1
      ((noted render).step (state, loads) step).1.2 ∧ later.Extends stored := by
  change ∃ later, Sound later ((Gather.program render).step state step).1
    (noteLoad state step loads) ∧ later.Extends stored
  cases step with
  | call request =>
      cases stands : state.point request.thread with
      | none =>
          have acts := Program.Acts.step_eq (Gather.program render) (.call request stands)
          simp only [acts, noteLoad, stands]
          exact ⟨stored, sound.called render stands orderly, .refl stored⟩
      | some point =>
          have busy : ((Gather.program render).step state (.call request)).1 = state := by
            simp only [Program.step, Gather.program, stands]
          simp only [busy, noteLoad, stands]
          exact ⟨stored, sound, .refl stored⟩
  | resume thread input =>
      cases stands : state.point thread with
      | none =>
          have idle : ((Gather.program render).step state (.resume thread input)).1 = state := by
            simp only [Program.step, stands]
          rw [idle]
          exact ⟨stored, sound, .refl stored⟩
      | some point =>
          rw [Program.Acts.step_eq (Gather.program render) (.resume thread input point stands)]
          simp only [Orderly, stands] at orderly
          cases point with
          | opening macs =>
              cases input with
              | failed =>
                  refine ⟨stored, sound.install rfl ?_ (fun _ _ => rfl) ?_, .refl stored⟩
                  · intro bytes position writes
                    cases stands.symm.trans writes
                  · intro point fails
                    cases fails
              | done count =>
                  obtain ⟨quiet, current⟩ := orderly.resolve_left (by simp)
                  exact ⟨stored, sound.opened quiet stands current count, .refl stored⟩
          | writing bytes position =>
              cases input with
              | failed => exact absurd rfl orderly
              | done count => exact sound.wrote stands count
  | crash which =>
      have quiet : Settled state := orderly
      exact ⟨stored, {
        injective := sound.injective
        settled := fun _ => sound.settled quiet
        opening := fun _ _ goes => by cases goes
        writing := fun _ _ _ goes => by cases goes }, .refl stored⟩

variable (render) in
/-- An orderly run keeps what was stored. -/
theorem run (sound : Sound stored state loads) {steps : List GatherStep}
    (meets : (noted render).Meets Orderly (state, loads) steps) :
    ∃ later, Sound later ((noted render).final (state, loads) steps).1
      ((noted render).final (state, loads) steps).2 ∧ later.Extends stored := by
  induction steps generalizing state loads stored with
  | nil => exact ⟨stored, sound, .refl stored⟩
  | cons step steps ih =>
      obtain ⟨next, here, extended⟩ := sound.step render meets.1
      obtain ⟨later, reached, further⟩ := ih here meets.2
      exact ⟨later, reached, further.trans extended⟩

end Sound

/-- A server on which nothing runs. -/
def quietServer (file : MacFile) : GatherState × Loads := (Program.idle file, fun _ => none)

/-- Nothing that was trusted is forgotten or shared, as long as every request learns each MAC
for one entry, nothing is stored between its load and its opening, and the writes are whole. -/
theorem keepsTrust_run (render : Json → Option String) (file : MacFile) (stored : KnownMacs)
    (loaded : loadKnownMacs file true = some stored) (injective : stored.Injective)
    (steps : List GatherStep)
    (meets : (noted render).Meets Orderly (quietServer file) steps) :
    KeepsTrust render file steps := by
  have start : Sound stored (Program.idle file) (fun _ => none) := {
    injective := injective
    settled := fun _ => loaded
    opening := fun _ _ goes => by cases goes
    writing := fun _ _ _ goes => by cases goes }
  have same (steps : List GatherStep) : ((noted render).final (quietServer file) steps).1 =
      (Gather.program render).machine.final (Program.idle file) steps :=
    Machine.final_recording _ _ _ _ _
  constructor
  · rintro before after rfl readable known found
    obtain ⟨now, sound, -⟩ := start.run render ((Machine.meets_append _ _ _ _ _).mp meets).1
    rw [← same] at found
    exact sound.injective_of_load found
  · rintro before middle after rfl earlier later quiet laterQuiet
    have upTo := ((Machine.meets_append _ _ _ _ _).mp meets).1
    obtain ⟨now, sound, -⟩ := start.run render ((Machine.meets_append _ _ _ _ _).mp upTo).1
    obtain ⟨next, laterSound, extended⟩ :=
      sound.run render ((Machine.meets_append _ _ _ _ _).mp upTo).2
    have here : ((noted render).final (quietServer file) before).1 = earlier := same before
    have there : ((noted render).final ((noted render).final (quietServer file) before)
        middle).1 = later := by
      rw [← Machine.final_append]
      exact same (before ++ middle)
    change Sound now _ _ at sound
    have whole := sound.settled (here ▸ quiet)
    have laterWhole := laterSound.settled (there ▸ laterQuiet)
    exact ⟨now, next, here ▸ whole, there ▸ laterWhole, extended⟩

section

variable {render : Json → Option String} {request : Gather} {file : MacFile} {known : KnownMacs}

/-- The map is written at once. -/
def save (thread : Nat) (macs : KnownMacs) : List GatherStep :=
  Program.resumes thread [.done 0, .done (dumpKnownMacs macs).length]

/-- The whole map is in the file. -/
def saved (macs : KnownMacs) : Outcome MacFile GatherPoint Empty :=
  ⟨some (dumpKnownMacs macs), none, []⟩

variable (render) in
theorem final_save {state : GatherState} {thread : Nat} {macs : KnownMacs}
    (stands : state.point thread = some (.opening macs)) :
    (Gather.program render).machine.final state (save thread macs) =
      Program.install state thread (saved macs) := by
  have writes := writeAt_take (dumpKnownMacs macs).length (Nat.zero_le (dumpKnownMacs macs).length)
  simp only [List.take_zero, List.drop_zero, List.take_length, Nat.zero_add] at writes
  simp [save, saved, Program.resumes, Machine.final, Program.machine, Program.step, stands,
    Gather.program, Gather.resume, writes]

theorem start_of_learned (loaded : loadKnownMacs file request.readable = some known)
    (learned : (newlyTrusted render request known).rows ≠ []) :
    Gather.start render file request =
      ⟨file, some (.opening (known.merge (newlyTrusted render request known))), []⟩ := by
  simp [Gather.start, loaded, learned]

variable (render) in
/-- A request that learns something and is not disturbed. -/
def undisturbed (request : Gather) (known : KnownMacs) : List GatherStep :=
  .call request :: save request.thread (known.merge (newlyTrusted render request known))

/-- What it has learned is added to the file. -/
theorem final_undisturbed (loaded : loadKnownMacs file request.readable = some known)
    (learned : (newlyTrusted render request known).rows ≠ []) :
    (Gather.program render).machine.final (Program.idle file) (undisturbed render request known) =
      Program.idle (some (dumpKnownMacs (known.merge (newlyTrusted render request known)))) := by
  have stands : (Program.install (Program.idle file) request.thread
      (Gather.start render file request)).point request.thread =
        some (.opening (known.merge (newlyTrusted render request known))) := by
    rw [Program.install_point_self, start_of_learned loaded learned]
  have called : (Gather.program render).machine.final (Program.idle file)
      (undisturbed render request known) =
        (Gather.program render).machine.final (Program.install (Program.idle file) request.thread
          (Gather.start render file request))
            (save request.thread (known.merge (newlyTrusted render request known))) := rfl
  rw [called, final_save render stands, Program.install_install]
  exact Program.install_idle rfl

variable (request) in
/-- A crash after the file has been opened leaves it empty. -/
theorem final_crashed (loaded : loadKnownMacs file request.readable = some known)
    (learned : (newlyTrusted render request known).rows ≠ []) :
    (Gather.program render).machine.final (Program.idle file)
      [.call request, .resume request.thread (.done 0), .crash ()] = Program.idle (some []) := by
  let opening : GatherState :=
    Program.install (Program.idle file) request.thread (Gather.start render file request)
  have called :
      ((Gather.program render).step (Program.idle file) (.call request)).1 = opening := rfl
  have stands : opening.point request.thread =
      some (.opening (known.merge (newlyTrusted render request known))) := by
    rw [Program.install_point_self, start_of_learned loaded learned]
  have opened := Program.Acts.step_eq (Gather.program render)
    (.resume request.thread (.done 0) _ stands)
  simp only [Machine.final, Program.machine, called, opened]
  rfl

/-- Such a request is orderly when it learns each MAC for one entry. -/
theorem orderly_undisturbed (readable : request.readable = true)
    (loaded : loadKnownMacs file true = some known)
    (learned : (newlyTrusted render request known).rows ≠ [])
    (apart : LearnsApart request known) {state : GatherState × Loads}
    (idle : state.1 = Program.idle file) :
    (noted render).Meets Orderly state (undisturbed render request known) := by
  obtain ⟨_, loads⟩ := state
  subst idle
  have opens := start_of_learned (readable ▸ loaded) learned
  let opening := Program.install (Program.idle file) request.thread
    (Gather.start render file request)
  let loads' := Function.update loads request.thread (some ⟨file, request.readable⟩)
  have called : ((noted render).step (Program.idle file, loads) (.call request)).1 =
      (opening, loads') := rfl
  have stands : opening.point request.thread =
      some (.opening (known.merge (newlyTrusted render request known))) := by
    rw [Program.install_point_self, opens]
  have memory : opening.memory = file := by
    rw [Program.install_memory, opens]
  refine ⟨?_, ?_, ?_, trivial⟩
  · intro found isFound
    rw [readable] at isFound
    cases loaded.symm.trans isFound
    exact apart
  · rw [called]
    simp only [Orderly, stands, memory]
    refine .inr ⟨?_, ?_⟩
    · apply (settled_idle file).install
      simp [opens]
    · rw [← readable]
      exact Function.update_self _ _ _
  · have writing := Program.Acts.step_eq (Gather.program render)
      (.resume request.thread (.done 0) _ stands)
    rw [called]
    simp only [noted, Machine.recording, Program.machine, writing, Orderly,
      Program.install_point_self]
    simp [Gather.program, Gather.resume]

end

namespace Site

def gather (thread : Nat) (entries : List (String × Option String)) : Gather where
  thread := thread
  neighbors := [⟨"10.42.0.52", "2c:cf:67:c1:1d:7b", "REACHABLE"⟩,
    ⟨"10.42.0.53", "2c:cf:67:c1:2e:8c", "REACHABLE"⟩]
  inventoryIps := .ofPairs entries
  statuses := Table.empty
  hub := "presence-hub"
  readable := true

def firstContact : Gather := gather 0 [("zero2", some "10.42.0.52"), ("zero3", none)]

def secondContact : Gather := gather 1 [("zero2", none), ("zero3", some "10.42.0.53")]

/-- Two entries that resolve to one address. -/
def sharedAddress : Gather :=
  gather 0 [("zero2", some "10.42.0.52"), ("pizero2w-2.local", some "10.42.0.52")]

def render (_ : Json) : Option String := none

end Site

/-- What the first contact leaves in the file. -/
def Site.firstKnown : KnownMacs := newlyTrusted render firstContact Table.empty

theorem Site.rows_firstKnown : firstKnown.rows = [("zero2", "2c:cf:67:c1:1d:7b")] := by
  decide +kernel

/-- Without a recorded MAC, an entry is matched by its address. -/
theorem of_locate_none {neighbors : List Neighbor} {ip : Option String} {device : Neighbor}
    (located : locate neighbors none ip = some device) :
    ∃ resolved, ip = some resolved ∧ device.ip = resolved ∧ device ∈ neighbors := by
  simp only [locate, Option.bind_none, Option.or_none, Option.filter_eq_some_iff] at located
  obtain ⟨resolved, isIp, found⟩ := Option.bind_eq_some_iff.mp located.1
  obtain ⟨among, atIp⟩ := Dict.of_find_index found
  exact ⟨resolved, (Option.filter_eq_some_iff.mp isIp).1, atIp, among⟩

/-- Such a request can learn the MAC of one entry only. -/
theorem Site.learnsApart {thread : Nat} {entries : List (String × Option String)}
    {known : KnownMacs} (entry mac : String)
    (only : ∀ item ∈ entries, ∀ resolved ∈ item.2, item.1 = entry ∧
      ∀ neighbor ∈ (gather thread entries).neighbors, neighbor.ip = resolved →
        neighbor.mac = mac)
    (fresh : ∀ other, known.find other ≠ some mac) :
    LearnsApart (gather thread entries) known := by
  have trusts {other found : String} (trusted : Trusts (gather thread entries) known other found) :
      other = entry ∧ found = mac := by
    obtain ⟨unrecorded, device, ⟨ip, inInventory, located⟩, rfl⟩ := trusted
    rw [unrecorded] at located
    obtain ⟨resolved, rfl, atIp, among⟩ := of_locate_none located
    obtain ⟨same, macs⟩ := only _ (Dict.mem_of_find_ofPairs inInventory) resolved rfl
    exact ⟨same, macs device among atIp⟩
  intro left right found trusted other
  obtain ⟨rfl, rfl⟩ := trusts trusted
  obtain trustedRight | recorded := other
  · exact (trusts trustedRight).1.symm
  · exact absurd recorded (fresh right)

/-- The first contact with an entry is trusted and recorded, and so is that with the next. -/
theorem keepsTrust_firstContact :
    KeepsTrust Site.render none (undisturbed Site.render Site.firstContact Table.empty ++
      undisturbed Site.render Site.secondContact Site.firstKnown) := by
  refine keepsTrust_run _ none Table.empty rfl KnownMacs.injective_empty _ ?_
  have present : (newlyTrusted Site.render Site.firstContact Table.empty).rows ≠ [] := by
    decide +kernel
  refine (Machine.meets_append _ _ _ _ _).mpr ⟨?_, ?_⟩
  · refine orderly_undisturbed rfl rfl present ?_ rfl
    apply Site.learnsApart "zero2" "2c:cf:67:c1:1d:7b"
    · decide
    · intro other recorded
      cases recorded
  · refine orderly_undisturbed rfl (loadKnownMacs_dump Site.firstKnown) (by decide +kernel) ?_ ?_
    · apply Site.learnsApart "zero3" "2c:cf:67:c1:2e:8c"
      · decide
      · intro other recorded
        have listed := Dict.find_eq_some_iff.mp recorded
        rw [Site.rows_firstKnown] at listed
        exact absurd listed (by simp)
    · refine (Machine.final_recording _ _ _ _ _).trans ?_
      rw [final_undisturbed rfl present, Dict.merge_empty]
      rfl

/-- A request records one MAC for two entries. -/
theorem not_keepsTrust_sharedAddress :
    ¬KeepsTrust Site.render none (undisturbed Site.render Site.sharedAddress Table.empty) := by
  intro keeps
  have present : (newlyTrusted Site.render Site.sharedAddress Table.empty).rows ≠ [] := by
    decide +kernel
  have reached := final_undisturbed (rfl : loadKnownMacs none true = some Table.empty) present
  have stored := congrArg (fun state => loadKnownMacs state.memory true) reached
  have injective := keeps.injective _ [] (List.append_nil _).symm true _
    (stored.trans (loadKnownMacs_dump _))
  have same := injective "zero2" "pizero2w-2.local" "2c:cf:67:c1:1d:7b" (by decide +kernel)
    (by decide +kernel)
  exact absurd same (by decide)

/-- Of two requests that load the same map, the one that writes first is forgotten. -/
theorem not_keepsTrust_lostUpdate :
    ¬KeepsTrust Site.render none
      (([.call Site.firstContact, .call Site.secondContact] ++
          save 0 (newlyTrusted Site.render Site.firstContact Table.empty)) ++
        save 1 (newlyTrusted Site.render Site.secondContact Table.empty)) := by
  intro keeps
  let first := newlyTrusted Site.render Site.firstContact Table.empty
  let second := newlyTrusted Site.render Site.secondContact Table.empty
  have firstOpens : Gather.start Site.render none Site.firstContact =
      ⟨none, some (.opening first), []⟩ := by
    rw [start_of_learned rfl (by decide +kernel), Dict.merge_empty]
  have secondOpens : Gather.start Site.render none Site.secondContact =
      ⟨none, some (.opening second), []⟩ := by
    rw [start_of_learned rfl (by decide +kernel), Dict.merge_empty]
  let called : GatherState := Program.install (Program.idle none) 0
    (Gather.start Site.render none Site.firstContact)
  let opening : GatherState := Program.install called 1
    (Gather.start Site.render none Site.secondContact)
  have calls : (Gather.program Site.render).machine.final (Program.idle none)
      [.call Site.firstContact, .call Site.secondContact] = opening := by
    have firstCall : ((Gather.program Site.render).step (Program.idle none)
        (.call Site.firstContact)).1 = called := rfl
    have free : called.point 1 = none := Program.install_point_of_ne _ _ (by decide)
    have secondCall := Program.Acts.step_eq (Gather.program Site.render)
      (.call Site.secondContact free)
    have memory : called.memory = none := by
      rw [Program.install_memory, firstOpens]
    rw [memory] at secondCall
    simp only [Machine.final, Program.machine, firstCall, secondCall]
    rfl
  have firstStands : opening.point 0 = some (.opening first) := by
    rw [Program.install_point_of_ne _ _ (by decide), Program.install_point_self, firstOpens]
  have secondStands : (Program.install opening 0 (saved first)).point 1 =
      some (.opening second) := by
    rw [Program.install_point_of_ne _ _ (by decide), Program.install_point_self, secondOpens]
  have reached : (Gather.program Site.render).machine.final (Program.idle none)
      ([.call Site.firstContact, .call Site.secondContact] ++ save 0 first) =
        Program.install opening 0 (saved first) := by
    rw [Machine.final_append, calls, final_save Site.render firstStands]
  have later : (Gather.program Site.render).machine.final (Program.idle none)
      (([.call Site.firstContact, .call Site.secondContact] ++ save 0 first) ++ save 1 second) =
        Program.install (Program.install opening 0 (saved first)) 1 (saved second) := by
    rw [Machine.final_append, reached, final_save Site.render secondStands]
  have quiet : Settled (Program.install opening 0 (saved first)) := by
    refine (((settled_idle none).install ?_).install ?_).install ?_
    · simp [firstOpens]
    · simp [secondOpens]
    · simp [saved]
  have laterQuiet : Settled
      (Program.install (Program.install opening 0 (saved first)) 1 (saved second)) := by
    apply quiet.install
    simp [saved]
  rw [← later] at laterQuiet
  rw [← reached] at quiet
  obtain ⟨stored, laterStored, isStored, isLater, extended⟩ :=
    keeps.monotone _ _ [] (List.append_nil _).symm quiet laterQuiet
  rw [reached] at isStored
  rw [later] at isLater
  cases (loadKnownMacs_dump first).symm.trans isStored
  cases (loadKnownMacs_dump second).symm.trans isLater
  have kept := extended "zero2" "2c:cf:67:c1:1d:7b" (by decide +kernel)
  exact absurd kept (by decide +kernel)

/-- A crash between the opening of the file and the write leaves no map. -/
theorem not_keepsTrust_crash :
    ¬KeepsTrust Site.render none
      (undisturbed Site.render Site.firstContact Table.empty ++
        [.call Site.secondContact, .resume 1 (.done 0), .crash ()]) := by
  intro keeps
  let first := newlyTrusted Site.render Site.firstContact Table.empty
  have reached : (Gather.program Site.render).machine.final (Program.idle none)
      (undisturbed Site.render Site.firstContact Table.empty) =
        Program.idle (some (dumpKnownMacs first)) := by
    rw [final_undisturbed rfl (by decide +kernel), Dict.merge_empty]
  have later : (Gather.program Site.render).machine.final (Program.idle none)
      (undisturbed Site.render Site.firstContact Table.empty ++
        [.call Site.secondContact, .resume 1 (.done 0), .crash ()]) = Program.idle (some []) := by
    rw [Machine.final_append, reached]
    exact final_crashed Site.secondContact (loadKnownMacs_dump first) (by decide +kernel)
  obtain ⟨stored, laterStored, isStored, isLater, extended⟩ :=
    keeps.monotone _ _ [] (List.append_nil _).symm (by rw [reached]; exact settled_idle _)
      (by rw [later]; exact settled_idle _)
  rw [reached] at isStored
  rw [later] at isLater
  cases (loadKnownMacs_dump first).symm.trans isStored
  have forgotten : laterStored = Table.empty :=
    loadKnownMacs_take (List.length_pos_iff.mpr (dumpKnownMacs_ne_nil first)) isLater
  have kept := extended "zero2" "2c:cf:67:c1:1d:7b" (by decide +kernel)
  rw [forgotten] at kept
  cases kept

end PresenceLogger.Fleet
