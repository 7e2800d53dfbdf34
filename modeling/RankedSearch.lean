import RankedSearch.Main
import RankedSearch.Proofs.CommandLine.FirstPage
import RankedSearch.Proofs.Session.Barrier
import RankedSearch.Proofs.Session.Calls
import RankedSearch.Proofs.Session.Copying
import RankedSearch.Proofs.Session.Forward
import RankedSearch.Proofs.Session.RankedFirst
import RankedSearch.Proofs.Session.RankedGate
import RankedSearch.Service.Backend
import RankedSearch.Service.Spy
import RankedSearch.Session.Update
import RankedSearch.Proofs.Query.PhraseForms
import RankedSearch.Proofs.Text.FormEncoding
import RankedSearch.Proofs.Query.RoutePaths
import RankedSearch.Proofs.Session.Inert
import RankedSearch.Proofs.Json.ReadBack
import RankedSearch.Proofs.Number.Bounds
import RankedSearch.Proofs.Json.Documents
import RankedSearch.Proofs.Json.RankedPages
import RankedSearch.Proofs.Json.Records
import RankedSearch.Proofs.Url.Segments
import RankedSearch.Proofs.Service.Requests
import RankedSearch.Proofs.Service.Conversation
import RankedSearch.Proofs.Service.Agreement
import RankedSearch.Proofs.Session.Steady
import RankedSearch.Proofs.CommandLine.Release
import RankedSearch.Proofs.Session.Meeting
import RankedSearch.Proofs.Session.MeetingPoint
import RankedSearch.Proofs.Notification
import RankedSearch.Proofs.Session.PageByPage
import RankedSearch.Proofs.Session.PagesOnClock
import RankedSearch.Proofs.CommandLine.PagesAskedFor
import RankedSearch.Proofs.CommandLine.PagingMeanwhile
import RankedSearch.Proofs.Service.Addresses
import RankedSearch.Proofs.Service.Replies
import RankedSearch.Proofs.Service.Unranked
import RankedSearch.Proofs.Session.TailMarks
import RankedSearch.Proofs.Session.TailWalk
import RankedSearch.Proofs.Query.RouteParameters
import RankedSearch.Proofs.Config
import RankedSearch.Proofs.CommandLine.Executions
import RankedSearch.Proofs.CommandLine.OnTheClock
