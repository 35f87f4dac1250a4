import Wayfinder.Navigation.Navigator

/-!
# Replaying the history

A page from the history is shown by navigating to the path of its entry, without recording it
again.
-/

namespace Wayfinder

variable {ω : Type}

/-- Why an entry could not be replayed. -/
inductive HistoryError where
  | missingPath
  | invalidState (cause : Json.Cause)
  | navigation (error : NavigateError)

def HistoryError.message : HistoryError → String
  | missingPath => "History state has no path"
  | invalidState cause => "Invalid history state: " ++ cause.message
  | navigation error => error.message

namespace Navigator

/-- Replay a history entry. -/
def popState (n : Navigator ω) (state : HistoryState) (h : Host ω) :
    Except HistoryError Navigation × Host ω :=
  match n.load state.path false h with
  | (.ok nav, h) => (.ok nav, h)
  | (.error e, h) => (.error (.navigation e), h)

/-- Replay a history entry from the value that a browser keeps for it. -/
def popStateValue (n : Navigator ω) (state : Json) (h : Host ω) :
    Except HistoryError Navigation × Host ω :=
  match state.member? "path" with
  | none => (.error .missingPath, h)
  | some _ =>
    match HistoryState.decoder.ofValue state with
    | .ok s => n.popState s h
    | .error e => (.error (.invalidState e), h)

/-- Move in the history and replay the entry reached, if there is one. -/
def replayMove (n : Navigator ω) (move : History → History × Option HistoryState) (h : Host ω) :
    Except HistoryError (Option Navigation) × Host ω :=
  match move h.page.history with
  | (_, none) => (.ok none, h)
  | (history, some state) =>
    let (result, h) := n.popState state (h.onPage fun p => { p with history })
    (result.map some, h)

/-- Replay the entry before the current one. -/
def back (n : Navigator ω) (h : Host ω) : Except HistoryError (Option Navigation) × Host ω :=
  n.replayMove History.back h

/-- Replay the entry behind the current one. -/
def forward (n : Navigator ω) (h : Host ω) : Except HistoryError (Option Navigation) × Host ω :=
  n.replayMove History.forward h

end Navigator

end Wayfinder
