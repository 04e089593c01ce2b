import Dataflow.Unicode.Table
/-!
# General categories

The general category of every code point (Unicode 14.0), as runs in packed numbers
(`Dataflow.Unicode.readPacked`): each run is the one number `30 × d + k`, where `d` is the
distance of its start from the start of the run before it (the first from zero) and `k` the
place of its category in `GeneralCategory.all`. Decimal digits come in runs of ten that start
at the digit zero. All but the first piece of the text is range coded
(`Dataflow.Unicode.rangeDecode`).
-/

namespace Dataflow.Unicode

/-- The runs of general categories, in order of their starts. The first piece holds the runs
that start below U+00A1, so that the categories of ASCII can be read from it alone. -/
def categoryText : String :=
  String.join [
    "<x$RkJRkDORSRMRinHk+kHau:ROULUBu:SOSZxC",
    rangeDecode 8 5798 (String.join [
      "S$5h!BZ>+JK)3Ghocl>ylR5:ByJVTHWNUG^G@9@aORV)t-z-)]Gsn:$GKyT_n5)$*,mu5n+LR]5l+[Y]4efy*2][O]r!hK0rcEzABf*#X/)5wdt/qTF05kw24cnnmxk?z=wAzWAkz9B;lmLU6~#Q>N4a-StO3&J94kwm<7aq8Yz|R>uz&?bQzE0<Uw1y=z-2I(<$?MVTn.SHo|bxU:]@bLZ7>f&hkJ7-JSiv#G^IK>+cA;qU(w~5%mw9!>jW-tFU<Lot*]iuR,<s2JVhqM#)YeW1fcs>UTw;%,E&s62Pt*sumYfk,Qv=^Vw=u7rVd0Kq$:q#[x)L;czj*].U/-vpKAkD<k7T*_iNw&$~6x8V4)yUR;APn-%S;Xf:#,AmDGO.*AGqKqciBX0[c?I|/TUpdhJ_JSx>&_K*.GV)|AV03;1l)o%e(Mh.|yn[,vO6Lv3Qh+]-rWPO@ts&9z6^?Y2*I-4<AU50:H_pgHdKCz|0KR/%8KsrO1j(.PVg+@COhJq_WCdcLj~zG;m!e6Opf0f]i+K?,7c3*>D3kgcys?=#Ff@.*(o_>a?CR!-8|WRMu<!.K^Glw5wt0@.#hUK0p<nH2SIKYth&K0=oi:*N?bYlTft-lM>kh[DX(8Y=5o6aZ@PvLg:P_rz8Umavu>llGv:!+A@bIRJOMnGSBD9VPL$5<c(A3^L#RkI(6NU3!fbqi8~aW49]IWt]fLmMZ:0:ksXV5p]Dtlf/nkfKo7HmnqK,|3jvq)i[&,E/0!=Shr,o/_n~QVfzy6rAIlP!7pOsvF|#[HDjacK:[F!7?t2CpDL6q>x!|3@M%[s;c-d~=,6iu5-#Rs~d%=8KV$%$J$slt.~Qc=CQu#syk*[~&[ChrBPajZ3PSVPH7~ex1kGu-^,).E-Cw2=AL%Y@)W@)U(jyNb)W[g_XrIgF=J4qn>U]K^]N(/^_EEHZ>Y-Ngu3g/]Hc5KKAzdoj_uo%(DgEc(RM..V%oI::|&b^ErEicmA8|5yV",
      ")8KwEB7g/b2D$+>E.)1tRlM|$:)/l&vim-fiZNxWZ,C[632Gj3;&V<=f+5qOK]3(KE]E)pWX649v(nK<wEzPtzxuUHMtW?6;hnN7YH=_I<wZ0+J4K.&f/=1nRE0RqC/1|Pvd5pQo[(bqDQ|U,YgtyHjtAj,M!=[XHYB%.4~mnQ0YPfdDJ$8b.[33ZS2nrs@!88b#%Od:FzNZOTwQ8ut#P$s!kQd_QiJ[cJ*v8&AnHL+qL/!fmJsu&AhA5l(:DLV!F3aL8x_W+@OI4,mw!JIIm)G>Io+7LR?g9_;rc&,_B~AbOva*2pohnJ]&Aa]Rw6SE%<K726h1_sMNy8=lvafD~bT]X(6?U:O^I-z?,a+gRW*_+?ux!eE$Zgs9uZy)L3VkIAHGKPn]vnlk=CnMR7H^WwW>7W8k+pNN<$Vtk0:,U]vU9:76ndiC|Ii(@Cv0N;IPq]3_xY@(QU)1GncLFV,;_1pV&i;Y.@zHXe)Gc/6m4A;Bi;LO*y;6Kg2x5Ry$vQgLM(.4=$R:wAipd$59oJt.0rX58FSYO75Fzi![g#lSDcksIca9ehXK)d3y>0~wvldFPMB-R[5HKu%M1!ep?rSuqP0C?-KOWC:=@C)@k|DCV>zhGYdp|EZ-S9IEFqRa:CvYzjR5aHvDS_[I@VvE!,v8XGoTIEPuS_pL3:ASGDnxK[bnC*3I-1=C)dV.ujjanLnY_RupFMW5=vk%h5/SzvG;0$QY14vKBtGD*6;mBj*|RsM&%Yn,ck4XM1os_Y^zC,(GlQNl&eYT(62b_v-VGD7]+V*rx(Pf7)7[g:6CvR5;L~pcQ2#q83RQn)2$B!v2Ix:kqwPPp#)Hby*]-EvewK4Ic+DLm5gR<SjT;)@t@_-hbxmv$zw,htgp2-62Y)NNwd5n#NU<-NdlzT5;BG_omgk#m_<^pLB6(b#Q#dz.5aC<8GbhM8K_S-]<ngb:wu[K,+v5;3tA[I9O6]d8I]6;7~pD3#h~ywtU!]YsghCJ[_hs",
      "S=tPAC#d>=k3eZT>C!Z?QkF2V3r!u.$/x=y=[v^,7wIn[clfl3JPyvp?r)m;B/Wy_.!$rx^MNXrk[@/kC=^1,f?/<jwNx6.SLIvRq|.nIGkpIUm:,x1eUUWm$QoDc?nC]JzXJ,%5#jan3-I7.LxF6Ia47vhAPHiUe6knF_j@62TWgrIjcx+.z2xn~^)oXU%A<O512r&80gIRA5%C_V;L*L0fQ@WWm;r.9(K-)1$GwhAf,/H0K,o^dKlEzUc~n@Iz|*m/HM^(U5MR%7x&=LF;tvr|c_cP.nW.#^D-fSM*0#053bdf4UJbW-a$f#;!zDEQ.)z;bE83Hz1Np)D(04;av>|ep1/2o1,hUFliaL:kOr(<hsi,>66YNu^G>n*cm%W=rHo,/m[.>,glWd7|>YCHew5?GUx8]*X^-[v[raKBuA3TRZ*98&wlXu^14:=SOX1_.g6rsBv_*ZcJjVOkD*llSpi9,LNjXus9VmL5vMbHFD&eR#+:X1>zKbhfhsd84XE8>miq(0zkVVsbQz2_)dW^o%5fw&h,p(@>RjpU#c0/s]pAJ=6Tu((3@,0A^rz6RIxA/ep>tbO<?pM:v/9XwaEcPl&k6Y0@!~dxrA3A215R=IvjSvhtOah@B$p,QX$5#_DU@r.bbVSpizsnRul*ij6##GtpBn|5(PH.g,O._YKZ8MsMn&c_ZW6IjgByYZ$*V4KXdjQbN7?3O0[SFush<0[K5_g6+=$Y)zC>8lvW!pR450u#^CBJa,RNMfW|cR(0M*,yuxPyd7[<ghV0uXl1W;+p^Ln,%nQya|a-ASwPYB8K0S/W7j$E6#a^bx/u2!xxlQ],s[+A(OkB<#Qi5g,0&wwc$5uz$KPndce3eTEXH5iiD[:&2XTf1<q+ZvM?;OhZS2q^dl~Y@$3yO0f0,sVP1&[-$K8S!Zxs<b:!8%UdJ(aq-dS(g&.WG[/)n2$@a4;3Dk/)mmvy?s$OT),w(Gc$V#.u2|o<cBVMNA)_kJuQ-TH]",
      "?6#8.aWe!Hco.O>a~%PV%I|[;eFvixF*^WrkOo0zG~%FBd;2Eu/B]H/7gtaI9gB|&Sr>VzTa$<v$#%Y,.3oqKm<lk&3#B?Hkh#rRMvIfYqILl<*anL,>)-/&?79ea;WVu0VJRTa[$V6zDID)*zWo,?(Y2[,Dpw5wwJFA|icc~qOP?Gi#!fy@s2u%3jx|ANR#XbLE(4(+qf(K!2lc4D/ZMo:e8lh~=D9~G$Kj|>zm0wQx)2)U]z5Q$tO)0s&3%d<Z|o+dd42nX06Wa$o-x=2!Y.gK/SepS>FAAXOLpcPIXQY?h,k%Qs|RHk3Aehx9+T18mX;hN_]EgD!4Y!~V3M?pj!e<x9cjW(lEK[c1k11ZQ9itlE2AeM%3_dSP@ZbH]HbZgtjB77TQ-L,sdTaN|3]~[sMW;2FaOqsF(*]a]i[bYaH=F[$SOCIcl1q|h:#G!XEXN)8F)XqWXj;G[-/=XX?S%ILq*TX&l+wPP]DZWS]1Xv,n)Se1u<&P;T71]NFO,>6Z7bfC_]x]lA7%*~lICd6$/*q4EU=v@R&MRl+SkK!C(>Lm;EO|lNG1$1Ge11l>w6lq+aovc>G(m4sJpq!Ev9@b<FxWx?FP9VZO#]_w?r+vUd2El(P/:bd_^]5/wt[bkG#7%+vlGk=r.o8;f9y+I;><$bmKC:2CHnml=hG$m]bfrW]GhI[kWM<c_+M1Zz.B]%INz9og>uerBTZ+4U%3Ivl>uT5pome&wdN_7(*^3xguBW-RjRo/3182buOHH[Q>Y&PHk-c<GItERoQ3-$%:$BVKKI?;0B)5s!Q37:Hvd.wKcF9.%Uw4_HjmSO;ayUW8rajaioa[S(+_T3>0S"])]

end Dataflow.Unicode
