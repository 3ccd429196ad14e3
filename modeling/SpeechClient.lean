import SpeechClient.Main
import SpeechClient.Proofs.Session.Outcome
import SpeechClient.Proofs.Wire.RoundTrip
import SpeechClient.Session.Journal
import SpeechClient.Session.Summary
import SpeechClient.Proofs.Session.Chronicle
import SpeechClient.Proofs.Session.Threads
import SpeechClient.Proofs.Session.Closing
import SpeechClient.Proofs.Session.Silence
import SpeechClient.Proofs.Session.Knowledge
import SpeechClient.Proofs.Session.Streams
import SpeechClient.Proofs.Audio.Queue
import SpeechClient.Proofs.Session.Rounds
import SpeechClient.Proofs.Session.Turns
import SpeechClient.Proofs.Session.Delivery
import SpeechClient.Proofs.Session.Deeds
import SpeechClient.Proofs.Session.Guard
import SpeechClient.Proofs.Session.Reentry
import SpeechClient.Proofs.Session.CancelReply
import SpeechClient.Proofs.Session.Likeness
import SpeechClient.Proofs.Session.Noise
import SpeechClient.Proofs.Session.Announcement
import SpeechClient.Proofs.Session.Renewal
import SpeechClient.Proofs.Session.AutoClose
import SpeechClient.Proofs.Session.Events
import SpeechClient.Proofs.Session.Beginning
import SpeechClient.Proofs.Wire.Delimiting
import SpeechClient.Proofs.Text.Encoding
import SpeechClient.Proofs.Settings.ParameterKeys
import SpeechClient.Proofs.Wire.Requests
import SpeechClient.Proofs.Fallible
import SpeechClient.Proofs.Audio.Layout
import SpeechClient.Proofs.Audio.Blocks
import SpeechClient.Proofs.Audio.Commands
import SpeechClient.Proofs.Session.Sources
import SpeechClient.Proofs.Session.Flags
import SpeechClient.Proofs.Audio.Live
import SpeechClient.Proofs.Session.Custody
import SpeechClient.Proofs.Session.Leftover
import SpeechClient.Proofs.Session.Story
import SpeechClient.Proofs.Session.Listeners
import SpeechClient.Proofs.Session.Spacing
import SpeechClient.Proofs.Wire.Spacing
import SpeechClient.Proofs.Number.Order
import SpeechClient.Proofs.Json.Numbers
import SpeechClient.Proofs.Json.Members
import SpeechClient.Proofs.Result.WordOrder
import SpeechClient.Proofs.Result.KeptWords
import SpeechClient.Proofs.Result.Status
import SpeechClient.Proofs.Number.Truncation
import SpeechClient.Proofs.Json.Integers
import SpeechClient.Proofs.Result.Scores
import SpeechClient.Proofs.Audio.RawFiles
import SpeechClient.Proofs.Settings.Headers
import SpeechClient.Proofs.Settings.Updates
import SpeechClient.Proofs.Wire.Calls
import SpeechClient.Proofs.Wire.Tokens
import SpeechClient.Proofs.Wire.Faults
import SpeechClient.Proofs.Session.Recording
