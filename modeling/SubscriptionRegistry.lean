import SubscriptionRegistry.Text.Pieces
import SubscriptionRegistry.Text.Word
import SubscriptionRegistry.Text.Upper
import SubscriptionRegistry.Text.Digits
import SubscriptionRegistry.Text.Numeral
import SubscriptionRegistry.Text.Quoted
import SubscriptionRegistry.Value
import SubscriptionRegistry.Uuid
import SubscriptionRegistry.Scope
import SubscriptionRegistry.KeyPair
import SubscriptionRegistry.Time.Date
import SubscriptionRegistry.Time.Instant
import SubscriptionRegistry.Time.Stamp
import SubscriptionRegistry.Fault
import SubscriptionRegistry.Fault.Guard
import SubscriptionRegistry.Store.Basic
import SubscriptionRegistry.Store.Projects
import SubscriptionRegistry.Store.Subscribers
import SubscriptionRegistry.Store.Watchers
import SubscriptionRegistry.View.Rows
import SubscriptionRegistry.View.Records
import SubscriptionRegistry.Log.Severity
import SubscriptionRegistry.Log.Event
import SubscriptionRegistry.Operation
import SubscriptionRegistry.Session
import SubscriptionRegistry.Settings.Scalar
import SubscriptionRegistry.Settings.Assignments
import SubscriptionRegistry.Settings
import SubscriptionRegistry.Worker
import SubscriptionRegistry.Script
import SubscriptionRegistry.Log
import SubscriptionRegistry.Engine.Address
import SubscriptionRegistry.Engine
import SubscriptionRegistry.Schema
import SubscriptionRegistry.Schema.Change
import SubscriptionRegistry.Schema.Revision
import SubscriptionRegistry.Schema.Migration
import SubscriptionRegistry.Command
import SubscriptionRegistry.Site
import SubscriptionRegistry.Main
import SubscriptionRegistry.Proofs.CanonicalText
import SubscriptionRegistry.Proofs.Spelling
import SubscriptionRegistry.Proofs.Calendar
import SubscriptionRegistry.Proofs.TimeTexts
import SubscriptionRegistry.Proofs.Joins
import SubscriptionRegistry.Proofs.Grouping
import SubscriptionRegistry.Proofs.Tables
import SubscriptionRegistry.Proofs.Routines
import SubscriptionRegistry.Proofs.Session
import SubscriptionRegistry.Proofs.Atomicity
import SubscriptionRegistry.Proofs.Write
import SubscriptionRegistry.Proofs.Journal
import SubscriptionRegistry.Proofs.Serial
import SubscriptionRegistry.Proofs.WriterLock
import SubscriptionRegistry.Proofs.Integrity
import SubscriptionRegistry.Proofs.ProjectHistory
import SubscriptionRegistry.Proofs.SubscriberHistory
import SubscriptionRegistry.Proofs.ScopeHistory
import SubscriptionRegistry.Proofs.WatcherHistory
import SubscriptionRegistry.Proofs.ScopeReplacement
import SubscriptionRegistry.Proofs.Outcome
import SubscriptionRegistry.Proofs.Translation
import SubscriptionRegistry.Proofs.Sweep
import SubscriptionRegistry.Proofs.Listings
import SubscriptionRegistry.Proofs.ReadViews
import SubscriptionRegistry.Proofs.ViewAgreement
import SubscriptionRegistry.Proofs.DroppedTexts
import SubscriptionRegistry.Proofs.ScopeDecoding
import SubscriptionRegistry.Proofs.ProjectLookups
import SubscriptionRegistry.Proofs.Redaction
import SubscriptionRegistry.Proofs.Secrecy
import SubscriptionRegistry.Proofs.Placement
import SubscriptionRegistry.Proofs.Admission
import SubscriptionRegistry.Proofs.Timestamps
import SubscriptionRegistry.Proofs.Slots
import SubscriptionRegistry.Proofs.Commutation
import SubscriptionRegistry.Proofs.Retries
import SubscriptionRegistry.Proofs.Renewal
import SubscriptionRegistry.Proofs.Relocation
import SubscriptionRegistry.Proofs.Interference
import SubscriptionRegistry.Proofs.Omission
import SubscriptionRegistry.Proofs.Deletion
