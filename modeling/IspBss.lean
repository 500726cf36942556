import IspBss.Props.RenewalRace
import IspBss.Props.Termination
import IspBss.Props.GatedActions
import IspBss.Props.QueueRetention
import IspBss.Props.PlaceOfSupply
import IspBss.Props.CommissionBacking
import IspBss.Props.OperatorEdits
import IspBss.Props.CreditCap
import IspBss.Props.RateConvergence
import IspBss.Props.Reconciliation
import IspBss.Props.ReturnOrder
import IspBss.Props.AuthCounts
import IspBss.Props.ControlReplies
import IspBss.Props.QueueIdempotency
import IspBss.Props.EapAccepts
import IspBss.Props.Suspension
import IspBss.Props.EapAccounting
import IspBss.Props.Outages
import IspBss.Props.VerifierCache
import IspBss.Props.AbandonedTasks
import IspBss.Props.ChannelOutcomes
import IspBss.Props.LeadConversion
import IspBss.Props.PurchaseOrders
import IspBss.Props.VoucherRedemption
import IspBss.Props.WebhookAttempts
import IspBss.Props.RenewalExact
import IspBss.Props.SubPaisa
import IspBss.Props.AddressLookup
import IspBss.Props.Retention
import IspBss.Props.DesKeys
import IspBss.Props.MacForms
import IspBss.Tr069.Provisioning
import IspBss.Partner.Ssrf
import IspBss.Props.EapCodec
import IspBss.Props.TaxRounding
import IspBss.Props.CacheRuns
import IspBss.Props.Statements
import IspBss.Props.SupersededSessions
