import RankedSearch.Session.Running

/-! One mark from its sending to its outcome, for a caller that does nothing else meanwhile. -/

namespace RankedSearch.Session

open RankedSearch.Service (Conclusion Request)

variable {σ : Type} [QueryService σ]

/-- Makes a call and waits as long as it takes. -/
def perform (service : σ) (r : Request) : σ × Conclusion (Except Service.Fault r.Reply) :=
  let reception := QueryService.receive service r
  reception.conclude reception.service

/-- Tells the service about a mark and, if it accepts it, reads the first page for fresh precision
figures; these may fail without harm to the mark. -/
def pushFlag (service : σ) (id : Query.Id) (patch : Patch) : σ × Conclusion FlagOutcome :=
  match perform service (.flag id patch.path true) with
  | (service, .crashed) => (service, .crashed)
  | (service, .returned (.error fault)) => (service, .returned (.failed fault))
  | (service, .returned (.ok _)) =>
    match perform service (.page id 1) with
    | (service, .crashed) => (service, .crashed)
    | (service, .returned (.error _)) => (service, .returned (.confirmed none))
    | (service, .returned (.ok page)) =>
      let page : Page := page
      (service, .returned (.confirmed (some page.precision)))

end RankedSearch.Session
