import WifiArbiter.MacAddress

/-!
# Past signals

A history of signals is a record of how access points have done in the past. It
is kept elsewhere; the arbiter only looks things up in it.
-/

namespace WifiArbiter

/-- A moment in the life of a connection at which its signal is sampled. -/
inductive ConnectionEvent where
  | signalPoll
  | scanBeforeConnect
  | firstPollAfterConnection
  | lastPollBeforeRoam
  | ipConfigurationSuccess
  | connectionFailure
deriving DecidableEq

namespace ConnectionEvent

/-- The event as records name it. -/
def name : ConnectionEvent → String
  | signalPoll => "SignalPoll"
  | scanBeforeConnect => "ScanBeforeConnect"
  | firstPollAfterConnection => "FirstPollAfterConnection"
  | lastPollBeforeRoam => "LastPollBeforeRoam"
  | ipConfigurationSuccess => "IpConfigurationSuccess"
  | connectionFailure => "ConnectionFailure"

/-- All events. -/
def all : List ConnectionEvent :=
  [signalPoll, scanBeforeConnect, firstPollAfterConnection, lastPollBeforeRoam,
    ipConfigurationSuccess, connectionFailure]

theorem mem_all (e : ConnectionEvent) : e ∈ all := by
  cases e <;> decide

end ConnectionEvent

/-- A summary of the signals sampled at one kind of event. -/
structure SignalSummary where
  count : UInt32
  min : Float
  max : Float
  mean : Float
  stddev : Float
deriving DecidableEq

/-- What is known of the signals of an access point in a network. -/
structure SignalHistory where
  summary : (ssid : String) → MacAddress → ConnectionEvent → Option SignalSummary

end WifiArbiter
