import PresenceLogger.Bridge.OracleJdbc
import PresenceLogger.Library.Java

/-!
# What the bridge makes of the sidecar's answer

The sidecar removes the breaks `\r` and `\n` from an error message, but `splitlines`
knows more of them.  What follows such a break is read as lines of the answer.
-/

namespace PresenceLogger.Bridge

open Library Library.Text

/-! ## The lines of a message -/

/-- The lines that `splitlines` makes of a message and the feed after it. -/
def messageLines (message : List Char) : List (List Char) := splitLines (message ++ ['\n'])

/-- What stays of the message in its own line. -/
def firstLine (message : List Char) : List Char := (messageLines message).headD []

/-- The fields that the bridge reads in the other lines. -/
def laterFields (message : List Char) : KvFields :=
  ((messageLines message).tail.filter fun line => line ≠ [] ∧ '=' ∈ line).map fun line =>
    (strip (partition '=' line).1, (partition '=' line).2)

theorem messageLines_eq_cons (message : List Char) :
    messageLines message = firstLine message :: (messageLines message).tail := by
  have nonempty : messageLines message ≠ [] := splitLines_ne_nil (by simp)
  rw [firstLine, List.headD_eq_head?_getD, List.head?_eq_some_head nonempty, Option.getD_some,
    List.cons_head_tail]

theorem parseKvBody_append {left text : List Char} (one : OneLine left) (nonempty : text ≠ []) :
    parseKvBody (left ++ text) =
      (((splitLines text).modifyHead (left ++ ·)).filter fun line =>
        line ≠ [] ∧ '=' ∈ line).map fun line =>
          (strip (partition '=' line).1, (partition '=' line).2) := by
  rw [parseKvBody, splitLines_append one nonempty]

theorem parseKvBody_message (message : List Char) :
    parseKvBody ("error_message=".toList ++ message ++ ['\n']) =
      ("error_message".toList, firstLine message) :: laterFields message := by
  have named : partition '=' ("error_message=".toList ++ firstLine message) =
      ("error_message".toList, firstLine message) := by
    rw [show "error_message=".toList = "error_message".toList ++ ['='] from rfl,
      List.append_assoc]
    exact partition_append (by decide) _
  rw [List.append_assoc, parseKvBody_append (by decide) (by simp), ← messageLines,
    messageLines_eq_cons, List.modifyHead_cons, List.filter_cons_of_pos (by simp), List.map_cons,
    named]
  rfl

/-- The answer is read as its own three fields and those in the message. -/
theorem parseKvBody_answer (transaction : Transaction) :
    parseKvBody (mergeResponse transaction) =
      [("rows_affected".toList, ofInt transaction.rowsAffected),
       ("ora_code".toList, transaction.oraCode.elim [] ofInt),
       ("error_message".toList, firstLine transaction.errorMessage)] ++
        laterFields transaction.errorMessage := by
  rw [mergeResponse_eq, parseKvBody_line (by decide) (by decide) (by decide) (oneLine_ofInt _),
    parseKvBody_line (by decide) (by decide) (by decide) (oneLine_oraCode transaction),
    parseKvBody_message]
  rfl

/-! ## What the sidecar leaves of a message -/

/-- Neither of the two breaks that the sidecar knows is in what it sends. -/
theorem not_feed_of_mem_sanitizeOneLine {message : Option String} {char : Char}
    (member : char ∈ sanitizeOneLine message) : char ≠ '\r' ∧ char ≠ '\n' := by
  cases message with
  | none => cases member
  | some text =>
      obtain ⟨written, -, rfl⟩ := List.mem_map.mp (mem_of_mem_stripBy member)
      split
      · decide
      next other => exact not_or.mp other

/-- A message whose only breaks are those two is sent as one line. -/
theorem oneLine_sanitizeOneLine {text : String}
    (feeds : ∀ char ∈ text.toList, isLineBreak char → char = '\r' ∨ char = '\n') :
    OneLine (sanitizeOneLine (some text)) := by
  intro char member
  obtain ⟨written, isWritten, rfl⟩ := List.mem_map.mp (mem_of_mem_stripBy member)
  split
  · decide
  next other =>
    rw [Bool.eq_false_iff]
    exact fun breaks => other (feeds written isWritten breaks)

/-- The text of the exception that ends the transaction. -/
def Transaction.message : Transaction → Option String
  | .committed _ => none
  | .sqlException _ _ message _ => message
  | .otherException _ className message _ => some (className ++ ": " ++ javaConcat message)

theorem Transaction.errorMessage_eq (transaction : Transaction) :
    transaction.errorMessage = sanitizeOneLine transaction.message := by
  cases transaction <;> rfl

/-! ## What is decoded -/

/-- The counts of the answer are values of Java's `int`. -/
structure Transaction.Counts (transaction : Transaction) : Prop where
  rowsAffected : Java.IsInt transaction.rowsAffected
  oraCode : ∀ code ∈ transaction.oraCode, Java.IsInt code

section Decoded

variable (transaction : Transaction)

/-- The fields that stand in the message. -/
def injected : KvFields := laterFields transaction.errorMessage

theorem get_append (fields later : KvFields) (key : String) :
    KvFields.get (fields ++ later) key = (later.get key).or (fields.get key) := by
  rw [KvFields.get, List.reverse_append, List.lookup_append]
  rfl

theorem get_answer (key : String) :
    KvFields.get (parseKvBody (mergeResponse transaction)) key =
      ((injected transaction).get key).or
        (KvFields.get [("rows_affected".toList, ofInt transaction.rowsAffected),
          ("ora_code".toList, transaction.oraCode.elim [] ofInt),
          ("error_message".toList, firstLine transaction.errorMessage)] key) := by
  rw [parseKvBody_answer, get_append]
  rfl

variable {transaction}

theorem strip_ofInt (n : Int) : strip (ofInt n) = ofInt n :=
  (trimmed_of_forall fun _ => isSpace_of_mem_ofInt).stripBy_eq

theorem oraCode_answer (counts : transaction.Counts) :
    (executeMergeViaJdbc (sidecarResponse transaction)).oraCode =
      if ((injected transaction).get "ora_code").isSome then (injected transaction).oraCode
      else transaction.oraCode := by
  rw [sidecarResponse, executeMergeViaJdbc, KvFields.oraCode, KvFields.oraCode, get_answer]
  cases (injected transaction).get "ora_code" with
  | some raw => rfl
  | none =>
      have own : KvFields.get [("rows_affected".toList, ofInt transaction.rowsAffected),
          ("ora_code".toList, transaction.oraCode.elim [] ofInt),
          ("error_message".toList, firstLine transaction.errorMessage)] "ora_code" =
          some (transaction.oraCode.elim [] ofInt) := rfl
      rw [Option.none_or, own, Option.bind_some, Option.isSome_none, if_neg Bool.false_ne_true]
      cases isCode : transaction.oraCode with
      | none => rfl
      | some code =>
          rw [Option.elim_some, strip_ofInt, if_neg (ofInt_ne_nil code),
            Java.parseInt_ofInt_of_isInt (counts.oraCode code isCode)]

theorem rowsAffected_answer (counts : transaction.Counts) :
    (executeMergeViaJdbc (sidecarResponse transaction)).rowsAffected =
      if ((injected transaction).get "rows_affected").isSome then
        (injected transaction).rowsAffected
      else transaction.rowsAffected := by
  rw [sidecarResponse, executeMergeViaJdbc, KvFields.rowsAffected, KvFields.rowsAffected,
    get_answer]
  cases (injected transaction).get "rows_affected" with
  | some raw => rfl
  | none =>
      have own : KvFields.get [("rows_affected".toList, ofInt transaction.rowsAffected),
          ("ora_code".toList, transaction.oraCode.elim [] ofInt),
          ("error_message".toList, firstLine transaction.errorMessage)] "rows_affected" =
          some (ofInt transaction.rowsAffected) := rfl
      rw [Option.none_or, own, Option.isSome_none, if_neg Bool.false_ne_true, Option.getD_some,
        strip_ofInt, if_neg (ofInt_ne_nil _), Java.parseInt_ofInt_of_isInt counts.rowsAffected,
        Option.getD_some]

/-- The message that the bridge reads. -/
def readMessage (transaction : Transaction) : List Char :=
  ((injected transaction).get "error_message").getD (firstLine transaction.errorMessage)

theorem errorMessage_answer :
    (executeMergeViaJdbc (sidecarResponse transaction)).errorMessage =
      some (String.ofList (readMessage transaction)) := by
  have own : KvFields.get [("rows_affected".toList, ofInt transaction.rowsAffected),
      ("ora_code".toList, transaction.oraCode.elim [] ofInt),
      ("error_message".toList, firstLine transaction.errorMessage)] "error_message" =
      some (firstLine transaction.errorMessage) := rfl
  rw [sidecarResponse, executeMergeViaJdbc, get_answer, own, readMessage]
  cases (injected transaction).get "error_message" <;> rfl

end Decoded

/-! ## Fidelity -/

/-- The result tells how the transaction has ended. -/
structure Faithful (transaction : Transaction) (result : MergeResult) : Prop where
  committed : result.oraCode = none ∧ result.errorMessage = some "" ↔
    ∃ rows, transaction = .committed rows
  oraCode : result.oraCode = transaction.oraCode
  rowsAffected : result.rowsAffected = transaction.rowsAffected

/-- Later lines of the message give no other counts, and an exception without a code
leaves a message. -/
structure Transaction.Conveyed (transaction : Transaction) : Prop where
  oraCode : ((injected transaction).get "ora_code").isSome →
    (injected transaction).oraCode = transaction.oraCode
  rowsAffected : ((injected transaction).get "rows_affected").isSome →
    (injected transaction).rowsAffected = transaction.rowsAffected
  errorMessage : (∀ rows, transaction ≠ .committed rows) → transaction.oraCode = none →
    readMessage transaction ≠ []

/-- A message without a break can only be missing. -/
theorem conveyed_iff_of_oneLine {transaction : Transaction}
    (one : OneLine transaction.errorMessage) :
    transaction.Conveyed ↔
      ((∀ rows, transaction ≠ .committed rows) → transaction.oraCode = none →
        transaction.errorMessage ≠ []) := by
  have alone : messageLines transaction.errorMessage = [transaction.errorMessage] :=
    splitLines_oneLine one []
  have noFields : injected transaction = [] := by
    rw [injected, laterFields, alone]
    rfl
  have whole : readMessage transaction = transaction.errorMessage := by
    rw [readMessage, noFields, firstLine, alone]
    rfl
  constructor
  · intro conveyed
    rw [← whole]
    exact conveyed.errorMessage
  · intro told
    constructor
    · intro named
      rw [noFields] at named
      cases named
    · intro named
      rw [noFields] at named
      cases named
    · rw [whole]
      exact told

/-- The breaks `\r` and `\n` do no harm: what counts is that an exception without a code has
more to say than white space. -/
theorem conveyed_iff_of_feeds {transaction : Transaction}
    (feeds : ∀ text ∈ transaction.message, ∀ char ∈ text.toList,
      isLineBreak char → char = '\r' ∨ char = '\n') :
    transaction.Conveyed ↔
      ((∀ rows, transaction ≠ .committed rows) → transaction.oraCode = none →
        sanitizeOneLine transaction.message ≠ []) := by
  have one : OneLine transaction.errorMessage := by
    rw [transaction.errorMessage_eq]
    cases written : transaction.message with
    | none => exact oneLine_nil
    | some text => exact oneLine_sanitizeOneLine (feeds text written)
  rw [conveyed_iff_of_oneLine one, transaction.errorMessage_eq]

theorem faithful_iff_conveyed {transaction : Transaction} (counts : transaction.Counts) :
    Faithful transaction (executeMergeViaJdbc (sidecarResponse transaction)) ↔
      transaction.Conveyed := by
  have code := oraCode_answer counts
  have rows := rowsAffected_answer counts
  constructor
  · intro faithful
    constructor
    · intro named
      rw [if_pos named] at code
      exact code.symm.trans faithful.oraCode
    · intro named
      rw [if_pos named] at rows
      exact rows.symm.trans faithful.rowsAffected
    · intro failed isNone empty
      have silent : (executeMergeViaJdbc (sidecarResponse transaction)).errorMessage =
          some "" := by
        rw [errorMessage_answer, empty]
      rcases faithful.committed.mp ⟨faithful.oraCode.trans isNone, silent⟩ with ⟨count, isCommitted⟩
      exact failed count isCommitted
  · intro conveyed
    have sameCode : (executeMergeViaJdbc (sidecarResponse transaction)).oraCode =
        transaction.oraCode := by
      rw [code]
      split
      next named => exact conveyed.oraCode named
      · rfl
    refine ⟨?_, sameCode, ?_⟩
    · constructor
      · rintro ⟨isNone, silent⟩
        by_contra failed
        rw [not_exists] at failed
        rw [errorMessage_answer] at silent
        apply conveyed.errorMessage failed (sameCode.symm.trans isNone)
        simpa using silent
      · rintro ⟨count, rfl⟩
        exact executeMergeViaJdbc_committed count
    · rw [rows]
      split
      next named => exact conveyed.rowsAffected named
      · rfl

/-- A line separator in the message of ORA-00054, with another code behind it. -/
def brokenMessage : Transaction :=
  .sqlException 0 54 (some "ORA-00054: resource busy\u2028ora_code=1400") false

theorem faithful_iff_conveyed_brokenMessage :
    ¬Faithful brokenMessage (executeMergeViaJdbc (sidecarResponse brokenMessage)) := by
  have counts : brokenMessage.Counts := ⟨by decide, fun code isCode => by cases isCode; decide⟩
  rw [faithful_iff_conveyed counts]
  intro conveyed
  have other : (injected brokenMessage).oraCode = some 1400 := by decide +kernel
  exact absurd (other.symm.trans (conveyed.oraCode (by decide +kernel))) (by decide)

/-- An exception with neither a code nor a message is read as a commit. -/
theorem not_faithful_silent :
    ¬Faithful (.sqlException 0 0 none false)
      (executeMergeViaJdbc (sidecarResponse (.sqlException 0 0 none false))) := by
  intro faithful
  have silent : (executeMergeViaJdbc (sidecarResponse (.sqlException 0 0 none false))).oraCode =
      none ∧ (executeMergeViaJdbc (sidecarResponse (.sqlException 0 0 none false))).errorMessage =
      some "" := by decide +kernel
  rcases faithful.committed.mp silent with ⟨rows, isCommitted⟩
  cases isCommitted

end PresenceLogger.Bridge
