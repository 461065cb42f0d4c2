import Http2.Proofs.Accusation
import Http2.Proofs.Priorities
import Http2.Proofs.Casts
import Http2.Proofs.Refusal
import Http2.Proofs.Intake
import Http2.Proofs.SettingsLedger
import Http2.Proofs.Latecomers
import Http2.Proofs.Concord
import Http2.Proofs.Allowance
import Http2.Proofs.Handover
import Http2.Proofs.Concurrency
import Http2.Proofs.ListSizes
import Http2.Proofs.Measures
import Http2.Proofs.Gathering
import Http2.Proofs.Fairness
import Http2.Proofs.Grants
import Http2.Proofs.Staging
import Http2.Proofs.Unfailing
