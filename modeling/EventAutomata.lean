import EventAutomata.History.Json
import EventAutomata.Proofs.Arena
import EventAutomata.Proofs.Automaton.Delivery
import EventAutomata.Proofs.Session.Recovery
import EventAutomata.Proofs.Session.Requests
import EventAutomata.Proofs.Session.Guards
import EventAutomata.Proofs.Session.Policies
import EventAutomata.Proofs.Session.Limits
import EventAutomata.Proofs.Session.Channels
import EventAutomata.Proofs.Session.Silence
import EventAutomata.Proofs.Session.Signals
import EventAutomata.Proofs.Session.Incarnations
import EventAutomata.Proofs.Time.Calendar
import EventAutomata.Proofs.Time.Rfc3339
import EventAutomata.Proofs.History.RoundTrip
import EventAutomata.Proofs.Automaton.Undoing
import EventAutomata.Proofs.Automaton.Teardown
import EventAutomata.Proofs.Graph.Exchanges
import EventAutomata.Proofs.Session.Polling
import EventAutomata.Proofs.Session.Itinerary
