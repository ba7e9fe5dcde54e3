import Mathlib.Data.List.Basic

/-!
# Connections of an MQTT client

A client opens a clean session whenever it connects, so the broker knows of the
subscriptions of the current session only.  The client library resends none of
them: what a session has been sent, the program has sent in it.
-/

namespace PresenceLogger.Library.Mqtt

structure Subscription where
  topicFilter : String
  qos : Nat
  deriving DecidableEq, Repr

inductive Link where
  | down
  /-- The CONNACK is still to come. -/
  | opening
  | up
  deriving DecidableEq, Repr

/-- The link, and the SUBSCRIBEs the current session has been sent. -/
structure Connection where
  link : Link := .down
  sent : List Subscription := []
  deriving DecidableEq, Repr

namespace Connection

/-- A new connection, with a clean session. -/
def opened : Connection where
  link := .opening

def lost (connection : Connection) : Connection :=
  { connection with link := .down }

/-- Without a link nothing is sent. -/
def subscribe (connection : Connection) (subscription : Subscription) : Connection :=
  if connection.link = .down then connection
  else { connection with sent := connection.sent ++ [subscription] }

def subscribeAll (connection : Connection) (subscriptions : List Subscription) : Connection :=
  subscriptions.foldl subscribe connection

/-- The CONNACK has come, and `on_connect` sends what it makes of the code; a
refused connection is closed afterwards. -/
def connack (connection : Connection) (rc : Int) (onConnect : Int → List Subscription) :
    Connection :=
  if connection.link ≠ .opening then connection
  else if rc = 0 then { connection with link := .up }.subscribeAll (onConnect rc)
  else (connection.subscribeAll (onConnect rc)).lost

@[simp] theorem link_opened : opened.link = .opening := rfl

@[simp] theorem link_lost (connection : Connection) : connection.lost.link = .down := rfl

@[simp] theorem link_subscribe (connection : Connection) (subscription : Subscription) :
    (connection.subscribe subscription).link = connection.link := by
  rw [subscribe]
  split <;> rfl

@[simp] theorem link_subscribeAll (connection : Connection) (subscriptions : List Subscription) :
    (connection.subscribeAll subscriptions).link = connection.link := by
  induction subscriptions generalizing connection with
  | nil => rfl
  | cons first rest ih => exact (ih _).trans (link_subscribe connection first)

theorem sent_subscribe {connection : Connection} (linked : connection.link ≠ .down)
    (subscription : Subscription) :
    (connection.subscribe subscription).sent = connection.sent ++ [subscription] := by
  rw [subscribe, if_neg linked]

theorem sent_subscribeAll {connection : Connection} (linked : connection.link ≠ .down)
    (subscriptions : List Subscription) :
    (connection.subscribeAll subscriptions).sent = connection.sent ++ subscriptions := by
  induction subscriptions generalizing connection with
  | nil => exact (List.append_nil _).symm
  | cons first rest ih =>
      have still : (connection.subscribe first).link ≠ .down := by rwa [link_subscribe]
      calc ((connection.subscribe first).subscribeAll rest).sent
          = (connection.subscribe first).sent ++ rest := ih still
        _ = connection.sent ++ first :: rest := by
            rw [sent_subscribe linked, List.append_assoc, List.singleton_append]

/-! ## What a session knows -/

/-- In the states `when` picks out, the session has been sent these subscriptions. -/
def Knows (connection : Connection) (when : Link → Prop) (wanted : List Subscription) : Prop :=
  when connection.link → wanted ⊆ connection.sent

variable {connection : Connection} {wanted : List Subscription} {when : Link → Prop}

theorem knows_opened (handshake : ¬when .opening) : opened.Knows when wanted :=
  fun holds => absurd holds handshake

theorem knows_lost (downed : ¬when .down) : connection.lost.Knows when wanted :=
  fun holds => absurd holds downed

/-- A subscription that is sent now may be added to the ones that are known. -/
theorem Knows.subscribe (knows : connection.Knows when wanted) (downed : ¬when .down)
    (subscription : Subscription) :
    (connection.subscribe subscription).Knows when (wanted ++ [subscription]) := by
  intro holds
  rw [link_subscribe] at holds
  have linked : connection.link ≠ .down := fun equal => downed (equal ▸ holds)
  rw [sent_subscribe linked]
  exact List.append_subset.mpr
    ⟨List.Subset.trans (knows holds) (List.subset_append_left ..), List.subset_append_right ..⟩

/-- A client that sends everything in `on_connect` is known to every session. -/
theorem Knows.connack_replaying (knows : connection.Knows (· = .up) wanted) {rc : Int}
    {onConnect : Int → List Subscription} (replays : wanted ⊆ onConnect 0) :
    (connection.connack rc onConnect).Knows (· = .up) wanted := by
  rw [connack]
  split
  · exact knows
  · split
    next accepted =>
      intro _
      rw [sent_subscribeAll (by simp), accepted]
      exact List.Subset.trans replays (List.subset_append_right ..)
    · exact knows_lost (by simp)

/-- A client that sends nothing in `on_connect` keeps what the session knew. -/
theorem Knows.connack_silent (knows : connection.Knows (· ≠ .down) wanted) (rc : Int) :
    (connection.connack rc fun _ => []).Knows (· ≠ .down) wanted := by
  rw [connack]
  split
  · exact knows
  next opening =>
    split
    · intro _
      apply knows
      rw [not_not.mp opening]
      simp
    · exact knows_lost (by simp)

end Connection

end PresenceLogger.Library.Mqtt
