import Jukebox.Config.Codec
import Jukebox.Config.Folder
import Jukebox.Gateway.Join
import Jukebox.Json.Sorted
import Jukebox.Main
import Jukebox.Proofs.Api.Answers
import Jukebox.Proofs.Party.Crowd
import Jukebox.Proofs.Party.Dropped
import Jukebox.Proofs.Party.Expiry
import Jukebox.Proofs.Party.Guests
import Jukebox.Proofs.Party.Observers
import Jukebox.Proofs.Party.PlayOrder
import Jukebox.Proofs.Party.Playlist
import Jukebox.Proofs.Party.Protocol
import Jukebox.Proofs.Party.Serial
import Jukebox.Proofs.Party.Views
import Jukebox.Proofs.Queue.Detour
import Jukebox.Proofs.Spotify.Names
import Jukebox.Proofs.Spotify.Renewals
import Jukebox.Proofs.Spotify.Tokens
import Jukebox.Proofs.Json.RoundTrip
import Jukebox.Proofs.Timestamp.RoundTrip
import Jukebox.Proofs.Codec
import Jukebox.Proofs.Config.Document
import Jukebox.Proofs.Config.Layers
import Jukebox.Proofs.Gateway.Commands
import Jukebox.Proofs.Gateway.Renewals
import Jukebox.Proofs.Event.Audience
import Jukebox.Proofs.Event.Fidelity
import Jukebox.Proofs.Party.Confirmation
import Jukebox.Proofs.Queue.Placement
import Jukebox.Proofs.Spotify.Lifetimes
import Jukebox.Proofs.Spotify.Lookup
import Jukebox.Proofs.Stopwatch
