import Crontab.Main
import Crontab.Proofs.Field.Union
import Crontab.Proofs.Schedule.Compiling
import Crontab.Proofs.Schedule.Matching
import Crontab.Proofs.Schedule.February
import Crontab.Proofs.Field.Meaning
import Crontab.Proofs.Field.Printing
import Crontab.Proofs.Schedule.Sunday
import Crontab.Proofs.Field.Rewriting
import Crontab.Proofs.Field.Grammar
import Crontab.Proofs.Schedule.Reporting
import Crontab.Proofs.CommandLine.Agreement
import Crontab.Proofs.Field.Content
import Crontab.Proofs.Field.Reordering
import Crontab.Proofs.Field.Substituting
import Crontab.Proofs.Book.Order
import Crontab.Proofs.Calendar.Consistency
import Crontab.Proofs.Calendar.Spelling
import Crontab.Proofs.Settings.Loading
import Crontab.Proofs.Schedule.Script
import Crontab.Proofs.CommandLine.Zone
import Crontab.Proofs.Field.Maxima
import Crontab.Proofs.Schedule.Admission
