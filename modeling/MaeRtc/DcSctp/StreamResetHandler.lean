import MaeRtc.DcSctp.ReceivePath

/-!
# Requests to reset streams

The part of `stream_reset_handler.cc` that answers the requests of a peer.  A
request is processed once, in the order of its number; a request that arrives
again is answered with the result it had.  What a response of the peer means for
our own request is a matter of the sending side.
-/

namespace MaeRtc.DcSctp

structure ReconfigurationResponseParameter where
  responseSequenceNumber : ReconfigRequestSn
  result : ReconfigurationResult
  deriving DecidableEq

/-- A parameter of a RE-CONFIG chunk; one that cannot be parsed carries no content. -/
inductive ReConfigParameter where
  | outgoingSsnResetRequest (req : Option OutgoingSsnResetRequestParameter)
  | incomingSsnResetRequest (requestSequenceNumber : Option ReconfigRequestSn)
  | ssnTsnResetRequest
  | addOutgoingStreamsRequest
  | addIncomingStreamsRequest
  | reconfigurationResponse (resp : Option ReconfigurationResponseParameter)
  | other
  deriving DecidableEq

structure StreamResetHandler where
  lastProcessedReqSeqNbr : ReconfigRequestSn
  lastProcessedReqResult : ReconfigurationResult := .successNothingToDo
  deriving DecidableEq

namespace StreamResetHandler

/-- The first request of a peer has its first TSN as its number. -/
def new (peerInitialTsn : Tsn) : StreamResetHandler where
  lastProcessedReqSeqNbr := peerInitialTsn - 1

/-- The combinations of parameters that a RE-CONFIG chunk may have. -/
def validate : List ReConfigParameter → Bool
  | [.outgoingSsnResetRequest _] | [.incomingSsnResetRequest _] | [.ssnTsnResetRequest]
  | [.addOutgoingStreamsRequest] | [.addIncomingStreamsRequest]
  | [.reconfigurationResponse _] => true
  | [.outgoingSsnResetRequest _, .incomingSsnResetRequest _]
  | [.incomingSsnResetRequest _, .outgoingSsnResetRequest _] => true
  | [.addOutgoingStreamsRequest, .addIncomingStreamsRequest]
  | [.addIncomingStreamsRequest, .addOutgoingStreamsRequest] => true
  | [.reconfigurationResponse _, .outgoingSsnResetRequest _]
  | [.outgoingSsnResetRequest _, .reconfigurationResponse _] => true
  | [.reconfigurationResponse _, .reconfigurationResponse _] => true
  | _ => false

/-- What a request outside the sequence is answered; the next one has no answer yet. -/
def validateReqSeqNbr (reqSeqNbr : ReconfigRequestSn) (handler : StreamResetHandler) :
    Option ReconfigurationResponseParameter :=
  if reqSeqNbr = handler.lastProcessedReqSeqNbr then
    some ⟨reqSeqNbr, handler.lastProcessedReqResult⟩
  else if reqSeqNbr ≠ handler.lastProcessedReqSeqNbr + 1 then
    some ⟨reqSeqNbr, .errorBadSequenceNumber⟩
  else none

/-- How a request is answered, and what is left of it. -/
structure Answer where
  handler : StreamResetHandler
  queue : ReassemblyQueue
  response : ReconfigurationResponseParameter
  incomingStreamsReset : Option (List StreamId) := none

def handleResetOutgoing (req : OutgoingSsnResetRequestParameter) (cumTsnAck : Tsn)
    (handler : StreamResetHandler) (queue : ReassemblyQueue) : Answer :=
  match handler.validateReqSeqNbr req.requestSequenceNumber with
  | some response => { handler := handler, queue := queue, response := response }
  | none =>
    let (result, queue) := queue.resetStreams req cumTsnAck
    { handler := ⟨req.requestSequenceNumber, result⟩
      queue := queue
      response := ⟨req.requestSequenceNumber, result⟩
      incomingStreamsReset := if result = .successPerformed then some req.streamIds else none }

/-- Resetting our own streams on request is not supported, and answered as a success. -/
def handleResetIncoming (reqSeqNbr : ReconfigRequestSn) (handler : StreamResetHandler) :
    StreamResetHandler × ReconfigurationResponseParameter :=
  match handler.validateReqSeqNbr reqSeqNbr with
  | some response => (handler, response)
  | none =>
    ({ handler with lastProcessedReqSeqNbr := reqSeqNbr }, ⟨reqSeqNbr, .successNothingToDo⟩)

end StreamResetHandler

end MaeRtc.DcSctp
