import RankedSearch.EventStream
import RankedSearch.Service.Client

/-! The channel on which a service tells about all its queries. It is an event stream under the base
URL. -/

namespace RankedSearch.Service.Channel

open RankedSearch.Text

/-- The URL of the channel at a path; slashes cut the path, and empty pieces are dropped. -/
def url (base : Url) (path : String) : Url :=
  base.extend (((pieces '/' path.toList).filter (!·.isEmpty)).map String.ofList)

def request (url : Url) : Http.Request := { method := "GET", target := url.target }

/-- What the channel brings once it is open. If it breaks off, what has come so far counts. -/
def connect : Http.Delivery → Except Fault (List Notification)
  | .answered status stream =>
    if status.isSuccess then .ok (EventStream.notifications stream)
    else
      .error
        (.stream s!"notification channel refused the connection with status {status.text}")
  | .unanswered | .cutShort => .error (.stream "notification channel connect failed")

end RankedSearch.Service.Channel
