import KarsHotel.Connectivity.BookingRules
import KarsHotel.Connectivity.CreateReservation
import KarsHotel.Connectivity.Idempotency
import KarsHotel.Inventory.Availability
import KarsHotel.Inventory.Inventory
import KarsHotel.Inventory.Occupancy
import KarsHotel.Lib.Calendar
import KarsHotel.Lib.Interleaving
import KarsHotel.Lib.Json
import KarsHotel.Lib.StableSort
import KarsHotel.Lib.Table
import KarsHotel.Lib.Transaction
import KarsHotel.Pricing.Calculator
import KarsHotel.Pricing.RateResolution
import KarsHotel.Pricing.Service
import KarsHotel.Pricing.Store
import KarsHotel.RatePlans.PartnerTariffMatch
import KarsHotel.Reservations.Deeds
import KarsHotel.Reservations.DoubleBooking
import KarsHotel.Reservations.FormAndButton
import KarsHotel.Reservations.NoOverbooking
import KarsHotel.Reservations.PlaceAllocation
import KarsHotel.Reservations.PlaceRule
import KarsHotel.Reservations.RoomPlaces
import KarsHotel.Reservations.Service
import KarsHotel.Reservations.Sessions
import KarsHotel.Reservations.StayFacts
import KarsHotel.Reservations.Store
import KarsHotel.Reservations.Versions
import KarsHotel.Values
import KarsHotel.Pricing.OnePrice
import KarsHotel.Restrictions.DecidingRow
import KarsHotel.Restrictions.Service
import KarsHotel.Restrictions.TwoEvaluators
import KarsHotel.Connectivity.ContractPrices
import KarsHotel.Connectivity.ContractMirror
import KarsHotel.RatePlans.Service
import KarsHotel.RatePlans.UniqueScope
import KarsHotel.Lib.ParentForest
import KarsHotel.RatePlans.PlanGraph
import KarsHotel.Inventory.PriceCache
import KarsHotel.Lib.Part
import KarsHotel.Lib.Turns
import KarsHotel.Connectivity.PartnerCalls
import KarsHotel.Connectivity.Isolation
import KarsHotel.Connectivity.PartnersBooking
import KarsHotel.Lib.CanonicalJson
import KarsHotel.Lib.Decimal
import KarsHotel.RatePlans.Fingerprint
import KarsHotel.RatePlans.FingerprintOrder
import KarsHotel.RatePlans.PlanNight
import KarsHotel.RatePlans.ConfirmedPrice
import KarsHotel.RatePlans.Review
import KarsHotel.RatePlans.InformedReview
import KarsHotel.Connectivity.AvailabilityFor
import KarsHotel.Connectivity.ContractPrivacy
import KarsHotel.Connectivity.BookingAlone
import KarsHotel.Connectivity.ClosedSale
import KarsHotel.Connectivity.OfferBooked
import KarsHotel.Auth.Service
import KarsHotel.Frontend.SessionRefresh
import KarsHotel.Frontend.TariffCalendar
import KarsHotel.Frontend.ContractPeriods
import KarsHotel.Auth.Rotation
import KarsHotel.Common.PermissionsGuard
import KarsHotel.Tenant.Team
import KarsHotel.SuperAdmin.Switches
import KarsHotel.Auth.SignIns
import KarsHotel.Auth.SwitchedOff
import KarsHotel.Reservations.Permissions
import KarsHotel.Auth.OwnerInvite
import KarsHotel.Auth.OneOwner
import KarsHotel.Lib.Lift
import KarsHotel.Connectivity.FactOnce
import KarsHotel.Folio.PaidCheckout
import KarsHotel.Reservations.FormAndButton
import KarsHotel.Connectivity.MealPlan
import KarsHotel.Common.JournalRedact
import KarsHotel.Frontend.ContractSlice
import KarsHotel.Common.AuditLog
import KarsHotel.Retention.Rules
import KarsHotel.Retention.Run
import KarsHotel.Reservations.Anonymised
import KarsHotel.Frontend.HotelAbout
import KarsHotel.Frontend.HotelAboutPieces
import KarsHotel.Frontend.HotelAboutRemarks
import KarsHotel.Frontend.HotelAboutDictionaries
import KarsHotel.Frontend.HotelAboutLines
import KarsHotel.Frontend.HotelAboutRows
import KarsHotel.Frontend.HotelAboutRoundTrip
import KarsHotel.Pricing.RowOrder
import KarsHotel.Lib.Decimals
import KarsHotel.Pricing.ExactCalculator
import KarsHotel.Inventory.CheapestPrice
import KarsHotel.Rates.Notices
import KarsHotel.Rates.PriceTexts
import KarsHotel.Inventory.Counters
import KarsHotel.Frontend.ContractRows
import KarsHotel.Rooms.Service
import KarsHotel.Rooms.ArchiveMany
import KarsHotel.Frontend.Chessboard
import KarsHotel.Partners.Directory
import KarsHotel.Auth.Slugs
import KarsHotel.Lib.ExpiringCounters
import KarsHotel.Auth.LoginThrottle
import KarsHotel.Auth.GuessingBound
import KarsHotel.Housekeeping.CleanRooms
import KarsHotel.Archive.Service
import KarsHotel.Archive.NothingAlive
import KarsHotel.References.Service
import KarsHotel.References.OwnHotel
import KarsHotel.Common.JournalList
import KarsHotel.Common.JournalService
import KarsHotel.Frontend.Journal
import KarsHotel.Connectivity.PartnerKeys
import KarsHotel.Lib.References
import KarsHotel.SuperAdmin.TenantExit
import KarsHotel.Lib.Grouping
import KarsHotel.Timeline.Service
import KarsHotel.Timeline.Realtime
import KarsHotel.Timeline.Drag
import KarsHotel.Timeline.Drop
import KarsHotel.Timeline.Form
import KarsHotel.Frontend.Reports
import KarsHotel.Connectivity.PartnerWebhooks
import KarsHotel.Frontend.SeasonsForm
